import Mathlib.Data.List.Nodup
import StagedTests.Container.Event

/-!
# Histories of containers

What a list of events tells of a container: whether it has started, and whether it has ended. In an
ordered list every termination comes behind a start of the same container.
-/

namespace StagedTests

def StartedIn (events : List ContainerEvent) (container : String) : Prop :=
  ∃ e ∈ events, e.isTerminal = false ∧ e.container = container

def EndedIn (events : List ContainerEvent) (container : String) : Prop :=
  ∃ e ∈ events, e.isTerminal = true ∧ e.container = container

section

variable (as bs : List ContainerEvent) (c : String)

theorem startedIn_append : StartedIn (as ++ bs) c ↔ StartedIn as c ∨ StartedIn bs c := by
  simp only [StartedIn, List.mem_append, or_and_right, exists_or]

theorem endedIn_append : EndedIn (as ++ bs) c ↔ EndedIn as c ∨ EndedIn bs c := by
  simp only [EndedIn, List.mem_append, or_and_right, exists_or]

theorem startedIn_singleton (e : ContainerEvent) :
    StartedIn [e] c ↔ e.isTerminal = false ∧ e.container = c := by
  simp [StartedIn]

theorem endedIn_singleton (e : ContainerEvent) :
    EndedIn [e] c ↔ e.isTerminal = true ∧ e.container = c := by
  simp [EndedIn]

end

/-- Every termination comes behind a start. -/
def Ordered (events : List ContainerEvent) : Prop :=
  ∀ before e after, events = before ++ e :: after → e.isTerminal = true →
    StartedIn before e.container

namespace Ordered

variable {events : List ContainerEvent}

theorem nil : Ordered [] := by
  intro before e after h
  cases before <;> cases h

theorem concat (h : Ordered events) {e : ContainerEvent}
    (he : e.isTerminal = true → StartedIn events e.container) : Ordered (events ++ [e]) := by
  intro before x after heq hx
  rcases List.append_eq_append_iff.mp heq with ⟨l, rfl, hl⟩ | ⟨l, rfl, hl⟩
  · cases l with
    | nil =>
      obtain ⟨rfl, -⟩ := List.cons.inj hl
      rw [List.append_nil]
      exact he hx
    | cons y l => simp at hl
  · cases l with
    | nil =>
      obtain ⟨rfl, -⟩ := List.cons.inj hl
      rw [List.append_nil] at he
      exact he hx
    | cons y l =>
      obtain ⟨rfl, -⟩ := List.cons.inj hl
      exact h before x l rfl hx

theorem of_prefix {first : List ContainerEvent} (h : Ordered events) (hpre : first <+: events) :
    Ordered first := by
  obtain ⟨rest, rfl⟩ := hpre
  intro before e after heq he
  exact h before e (after ++ rest) (by rw [heq, List.append_assoc, List.cons_append]) he

theorem startedIn (h : Ordered events) {c : String} (hc : EndedIn events c) :
    StartedIn events c := by
  obtain ⟨e, he, hend, rfl⟩ := hc
  obtain ⟨before, after, rfl⟩ := List.append_of_mem he
  exact (startedIn_append ..).mpr (.inl (h before e after rfl hend))

end Ordered

/-- Entries with keys of their own that are replaced by others of the same keys, or left out. -/
theorem nodup_map_filterMap {α β κ : Type} {f : α → Option β} {key : α → κ} {key' : β → κ}
    (hkey : ∀ {a b}, f a = some b → key' b = key a) {l : List α} (h : (l.map key).Nodup) :
    ((l.filterMap f).map key').Nodup := by
  rw [List.Nodup, List.pairwise_map] at h ⊢
  refine h.filterMap _ fun a a' hne b hb b' hb' heq => hne ?_
  rw [← hkey hb, ← hkey hb', heq]

end StagedTests
