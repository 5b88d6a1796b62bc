import StagedTests.Proofs.Container.Looks

/-!
# Looks that agree

Where a container that has terminated is reported so at all later looks, and no two containers of a
look have one name, the last look shows how each container has ended: the terminations that a
tracker has reported over all looks are those of the last one.
-/

namespace StagedTests

def Pod.endsAt (name : String) (pod : Pod) : List ContainerEvent :=
  pod.containerStatuses.filterMap (·.end? name)

/-- At each look the containers have names of their own, and an end that was shown is shown
unchanged at all later looks. -/
structure Lasting (name : String) (looks : List Pod) : Prop where
  distinct : ∀ pod ∈ looks, (pod.containerStatuses.map (·.name)).Nodup
  kept : looks.Pairwise fun earlier later => ∀ e ∈ earlier.endsAt name, e ∈ later.endsAt name

instance (name : String) (looks : List Pod) : Decidable (Lasting name looks) :=
  decidable_of_iff
    ((∀ pod ∈ looks, (pod.containerStatuses.map (·.name)).Nodup) ∧
      looks.Pairwise fun earlier later => ∀ e ∈ earlier.endsAt name, e ∈ later.endsAt name)
    ⟨fun h => ⟨h.1, h.2⟩, fun h => ⟨h.1, h.2⟩⟩

theorem containers_endsAt_nodup {name : String} {pod : Pod}
    (h : (pod.containerStatuses.map (·.name)).Nodup) :
    ((pod.endsAt name).map (·.container)).Nodup :=
  nodup_map_filterMap (fun he => (ContainerStatus.of_end? he).2) h

namespace Lasting

variable {name : String} {looks : List Pod} {last : Pod}

/-- What was shown at any look is shown at the last one. -/
theorem mem_endsAt_last (h : Lasting name (looks ++ [last])) {pod : Pod}
    (hpod : pod ∈ looks ++ [last]) {e : ContainerEvent} (he : e ∈ pod.endsAt name) :
    e ∈ last.endsAt name := by
  rcases List.mem_append.mp hpod with hpod | hpod
  · exact (List.pairwise_append.mp h.kept).2.2 pod hpod last List.mem_cons_self e he
  · rwa [List.mem_singleton.mp hpod] at he

/-- The terminations reported are those of the last look. -/
theorem mem_endsAt_of_reported (h : Lasting name (looks ++ [last])) {e : ContainerEvent}
    (he : e ∈ (Tracker.fresh.diffAll name (looks ++ [last])).2) (hend : e.isTerminal = true) :
    e ∈ last.endsAt name := by
  obtain ⟨earlier, s, later, state, t, hl, -, -, hstate, ht, rfl⟩ :=
    (Tracker.diffAll_tells name (looks ++ [last])).1.ended_first e he hend
  have hs : s ∈ (looks ++ [last]).flatMap Pod.containerStatuses := by
    rw [hl]
    exact List.mem_append_right _ List.mem_cons_self
  obtain ⟨pod, hpod, hs⟩ := List.mem_flatMap.mp hs
  refine h.mem_endsAt_last hpod (List.mem_filterMap.mpr ⟨s, hs, ?_⟩)
  simp [ContainerStatus.end?, hstate, ht]

end Lasting

theorem endedIn_of_mem_endsAt {name : String} {looks : List Pod} {last : Pod} {e : ContainerEvent}
    (he : e ∈ last.endsAt name) :
    EndedIn (Tracker.fresh.diffAll name (looks ++ [last])).2 e.container := by
  obtain ⟨s, hs, hend⟩ := List.mem_filterMap.mp he
  refine ((Tracker.diffAll_tells name (looks ++ [last])).1.endedIn_iff _).mpr ⟨s, ?_, ?_, ?_⟩
  · simp [hs]
  · exact (ContainerStatus.of_end? hend).2.symm
  · exact ContainerStatus.isSome_end?.mp (by rw [hend]; rfl)

end StagedTests
