import StagedTests.Proofs.Container.Tracker

/-!
# What is reported of one container

Of each container a tracker reports, over all looks at a pod, the first start that a state shows and
behind it the first termination, and nothing else. What it has reported it does not report again.
-/

namespace StagedTests

namespace ContainerStatus

def start? (pod : String) (s : ContainerStatus) : Option ContainerEvent :=
  s.state.bind fun state =>
    ((state.running.map (·.startedAt)).or (state.terminated.map (·.startedAt))).map
      (.started pod s.name)

def end? (pod : String) (s : ContainerStatus) : Option ContainerEvent :=
  (s.state.bind (·.terminated)).map fun t =>
    .terminated pod s.name t.startedAt t.finishedAt t.exitCode t.reason t.message

def HasBegun (s : ContainerStatus) : Prop :=
  ∃ state, s.state = some state ∧ (state.running.isSome = true ∨ state.terminated.isSome = true)

def HasEnded (s : ContainerStatus) : Prop :=
  ∃ state, s.state = some state ∧ state.terminated.isSome = true

variable {pod : String} {s : ContainerStatus}

theorem end?_eq_none (h : s.start? pod = none) : s.end? pod = none := by
  unfold start? at h
  unfold end?
  cases hs : s.state with
  | none => rfl
  | some state =>
    rw [hs] at h
    cases ht : state.terminated with
    | none => simp [ht]
    | some t => simp [ht] at h

theorem isSome_start? : (s.start? pod).isSome = true ↔ s.HasBegun := by
  unfold start? HasBegun
  cases s.state with
  | none => simp
  | some state => cases hr : state.running <;> simp [hr]

theorem isSome_end? : (s.end? pod).isSome = true ↔ s.HasEnded := by
  unfold end? HasEnded
  cases s.state with
  | none => simp
  | some state => simp

theorem of_start? {e : ContainerEvent} (h : s.start? pod = some e) :
    e.isTerminal = false ∧ e.container = s.name := by
  unfold start? at h
  cases hs : s.state with
  | none => simp [hs] at h
  | some state =>
    simp only [hs, Option.bind_some, Option.map_eq_some_iff] at h
    obtain ⟨_, -, rfl⟩ := h
    exact ⟨rfl, rfl⟩

theorem of_end? {e : ContainerEvent} (h : s.end? pod = some e) :
    e.isTerminal = true ∧ e.container = s.name := by
  unfold end? at h
  simp only [Option.map_eq_some_iff] at h
  obtain ⟨_, -, rfl⟩ := h
  exact ⟨rfl, rfl⟩

end ContainerStatus

namespace Tracker

def eventsOf (c : String) (events : List ContainerEvent) : List ContainerEvent :=
  events.filter fun e => e.container = c

def firstStart (pod c : String) (l : List ContainerStatus) : Option ContainerEvent :=
  l.findSome? fun s => if s.name = c then s.start? pod else none

def firstEnd (pod c : String) (l : List ContainerStatus) : Option ContainerEvent :=
  l.findSome? fun s => if s.name = c then s.end? pod else none

/-- What is new about a container: nothing if it is known. -/
def news (known : List String) (c : String) (e : Option ContainerEvent) : List ContainerEvent :=
  if c ∈ known then [] else e.toList

theorem observe_eq (t : Tracker) (pod : String) (s : ContainerStatus) :
    (t.observe pod s).2 = news t.started s.name (s.start? pod) ++
      news t.terminated s.name (s.end? pod) := by
  unfold observe ContainerStatus.start? ContainerStatus.end? news
  cases s.state with
  | none => simp
  | some state =>
    by_cases hstarted : s.name ∈ t.started <;> by_cases hended : s.name ∈ t.terminated <;>
      cases hr : state.running <;> cases ht : state.terminated <;>
        simp [observeRunning, observeTerminated, start, finish, hstarted, hended, hr, ht]

theorem eventsOf_news {known : List String} {e : Option ContainerEvent} {d : String}
    (he : ∀ x, e = some x → x.container = d) (c : String) :
    eventsOf c (news known d e) = if d = c then news known d e else [] := by
  unfold eventsOf news
  cases e with
  | none => simp
  | some x =>
    have hx := he x rfl
    by_cases hknown : d ∈ known <;> by_cases hname : d = c <;> simp [hknown, hname, hx]

section

variable {pod c : String} {l : List ContainerStatus}

theorem of_firstStart {e : ContainerEvent} (h : firstStart pod c l = some e) :
    e.isTerminal = false ∧ e.container = c := by
  obtain ⟨s, -, hs⟩ := List.exists_of_findSome?_eq_some h
  split at hs
  · rename_i hname
    exact hname ▸ ContainerStatus.of_start? hs
  · cases hs

theorem of_firstEnd {e : ContainerEvent} (h : firstEnd pod c l = some e) :
    e.isTerminal = true ∧ e.container = c := by
  obtain ⟨s, -, hs⟩ := List.exists_of_findSome?_eq_some h
  split at hs
  · rename_i hname
    exact hname ▸ ContainerStatus.of_end? hs
  · cases hs

theorem isSome_firstStart :
    (firstStart pod c l).isSome = true ↔ ∃ s ∈ l, s.name = c ∧ s.HasBegun := by
  rw [firstStart, List.findSome?_isSome_iff]
  refine exists_congr fun s => and_congr_right fun _ => ?_
  by_cases hname : s.name = c <;> simp [hname, ContainerStatus.isSome_start?]

theorem isSome_firstEnd :
    (firstEnd pod c l).isSome = true ↔ ∃ s ∈ l, s.name = c ∧ s.HasEnded := by
  rw [firstEnd, List.findSome?_isSome_iff]
  refine exists_congr fun s => and_congr_right fun _ => ?_
  by_cases hname : s.name = c <;> simp [hname, ContainerStatus.isSome_end?]

theorem firstStart_concat (s : ContainerStatus) : firstStart pod c (l ++ [s]) =
    (firstStart pod c l).or (if s.name = c then s.start? pod else none) := by
  rw [firstStart, List.findSome?_append, List.findSome?_singleton]
  rfl

theorem firstEnd_concat (s : ContainerStatus) : firstEnd pod c (l ++ [s]) =
    (firstEnd pod c l).or (if s.name = c then s.end? pod else none) := by
  rw [firstEnd, List.findSome?_append, List.findSome?_singleton]
  rfl

theorem firstEnd_eq_none (h : firstStart pod c l = none) : firstEnd pod c l = none := by
  rw [firstStart, List.findSome?_eq_none_iff] at h
  rw [firstEnd, List.findSome?_eq_none_iff]
  intro s hs
  have hstart := h s hs
  by_cases hname : s.name = c
  · rw [if_pos hname] at hstart ⊢
    exact ContainerStatus.end?_eq_none hstart
  · rw [if_neg hname]

end

/-- Of each container the events are its first start and its first termination. -/
def Firsts (pod : String) (l : List ContainerStatus) (events : List ContainerEvent) : Prop :=
  ∀ c, eventsOf c events = (firstStart pod c l).toList ++ (firstEnd pod c l).toList

namespace Firsts

variable {pod : String} {l : List ContainerStatus} {events : List ContainerEvent} {t : Tracker}

theorem mem_iff (h : Firsts pod l events) (e : ContainerEvent) :
    e ∈ events ↔ firstStart pod e.container l = some e ∨ firstEnd pod e.container l = some e := by
  have hmem : e ∈ eventsOf e.container events ↔ e ∈ events := by simp [eventsOf]
  rw [← hmem, h e.container, List.mem_append, Option.mem_toList, Option.mem_toList]

theorem startedIn_iff (h : Firsts pod l events) (c : String) :
    StartedIn events c ↔ (firstStart pod c l).isSome = true := by
  rw [Option.isSome_iff_exists]
  constructor
  · rintro ⟨e, he, hstart, rfl⟩
    rcases (h.mem_iff e).mp he with hfirst | hfirst
    · exact ⟨e, hfirst⟩
    · rw [(of_firstEnd hfirst).1] at hstart
      cases hstart
  · rintro ⟨e, he⟩
    obtain ⟨hstart, rfl⟩ := of_firstStart he
    exact ⟨e, (h.mem_iff e).mpr (.inl he), hstart, rfl⟩

theorem endedIn_iff (h : Firsts pod l events) (c : String) :
    EndedIn events c ↔ (firstEnd pod c l).isSome = true := by
  rw [Option.isSome_iff_exists]
  constructor
  · rintro ⟨e, he, hend, rfl⟩
    rcases (h.mem_iff e).mp he with hfirst | hfirst
    · rw [(of_firstStart hfirst).1] at hend
      cases hend
    · exact ⟨e, hfirst⟩
  · rintro ⟨e, he⟩
    obtain ⟨hend, rfl⟩ := of_firstEnd he
    exact ⟨e, (h.mem_iff e).mpr (.inr he), hend, rfl⟩

theorem observe (h : Firsts pod l events) (ht : t.Reported events) (s : ContainerStatus) :
    Firsts pod (l ++ [s]) (events ++ (t.observe pod s).2) := by
  intro c
  have hold : eventsOf c (events ++ (t.observe pod s).2) = eventsOf c events ++
      (eventsOf c (news t.started s.name (s.start? pod)) ++
        eventsOf c (news t.terminated s.name (s.end? pod))) := by
    rw [observe_eq, eventsOf, List.filter_append, List.filter_append]
    rfl
  rw [hold, h c, eventsOf_news (fun _ h => (ContainerStatus.of_start? h).2),
    eventsOf_news (fun _ h => (ContainerStatus.of_end? h).2), firstStart_concat, firstEnd_concat]
  by_cases hname : s.name = c
  · subst hname
    -- what the tracker knows of this container is whether its firsts were shown
    have hstarted := (ht.started_iff s.name).trans (h.startedIn_iff s.name)
    have hended := (ht.terminated_iff s.name).trans (h.endedIn_iff s.name)
    simp only [if_true, news, hstarted, hended]
    cases hfirst : firstStart pod s.name l with
    | none => simp [firstEnd_eq_none hfirst]
    | some e => cases firstEnd pod s.name l <;> simp
  · simp [hname]

theorem nil (pod : String) : Firsts pod [] [] := fun _ => rfl

theorem observeAll (h : Firsts pod l events) (ht : t.Reported events) (more : List ContainerStatus) :
    Firsts pod (l ++ more) (events ++ (t.observeAll pod more).2) := by
  induction more generalizing l events t with
  | nil => rwa [Tracker.observeAll, List.append_nil, List.append_nil]
  | cons s rest ih =>
    rw [Tracker.observeAll, ← List.append_assoc, List.append_cons]
    exact ih (h.observe ht s) (ht.observe pod s)

end Firsts

/-! ## What is known -/

def Knows (t : Tracker) (s : ContainerStatus) : Prop :=
  (s.HasBegun → s.name ∈ t.started) ∧ (s.HasEnded → s.name ∈ t.terminated)

theorem Knows.observe {t : Tracker} {s : ContainerStatus} (h : t.Knows s) (pod : String) :
    t.observe pod s = (t, []) := by
  obtain ⟨hstarted, hended⟩ := h
  unfold Tracker.observe
  cases hs : s.state with
  | none => rfl
  | some state =>
    have hrunning : state.running.isSome = true → s.name ∈ t.started :=
      fun hr => hstarted ⟨state, hs, .inl hr⟩
    have hterminated : state.terminated.isSome = true → s.name ∈ t.started ∧ s.name ∈ t.terminated :=
      fun ht => ⟨hstarted ⟨state, hs, .inr ht⟩, hended ⟨state, hs, ht⟩⟩
    cases hr : state.running <;> cases ht : state.terminated <;>
      simp_all [observeRunning, observeTerminated, start, finish]

theorem observeAll_of_knows {t : Tracker} {l : List ContainerStatus} (h : ∀ s ∈ l, t.Knows s)
    (pod : String) : t.observeAll pod l = (t, []) := by
  induction l with
  | nil => rfl
  | cons s rest ih =>
    obtain ⟨hs, hrest⟩ := List.forall_mem_cons.mp h
    rw [observeAll, hs.observe pod]
    dsimp only
    rw [ih hrest, List.nil_append]

theorem Firsts.knows {pod : String} {l : List ContainerStatus} {events : List ContainerEvent}
    {t : Tracker} (h : Firsts pod l events) (ht : t.Reported events) {s : ContainerStatus}
    (hs : s ∈ l) : t.Knows s := by
  refine ⟨fun hbegun => ?_, fun hended => ?_⟩
  · rw [ht.started_iff, h.startedIn_iff, isSome_firstStart]
    exact ⟨s, hs, rfl, hbegun⟩
  · rw [ht.terminated_iff, h.endedIn_iff, isSome_firstEnd]
    exact ⟨s, hs, rfl, hended⟩

/-! ## All looks at a pod -/

def diffAll (t : Tracker) (name : String) : List Pod → Tracker × List ContainerEvent
  | [] => (t, [])
  | pod :: rest =>
    let (t, events) := t.diff name pod
    let (t, more) := t.diffAll name rest
    (t, events ++ more)

theorem observeAll_append (t : Tracker) (pod : String) (l m : List ContainerStatus) :
    t.observeAll pod (l ++ m) =
      (((t.observeAll pod l).1.observeAll pod m).1,
        (t.observeAll pod l).2 ++ ((t.observeAll pod l).1.observeAll pod m).2) := by
  induction l generalizing t with
  | nil => rfl
  | cons s rest ih => simp only [List.cons_append, observeAll, ih, List.append_assoc]

theorem diffAll_eq (t : Tracker) (name : String) (looks : List Pod) :
    t.diffAll name looks = t.observeAll name (looks.flatMap Pod.containerStatuses) := by
  induction looks generalizing t with
  | nil => rfl
  | cons pod rest ih =>
    rw [List.flatMap_cons, observeAll_append]
    simp only [diffAll, ih, diff]

theorem diffAll_append (t : Tracker) (name : String) (looks more : List Pod) :
    t.diffAll name (looks ++ more) =
      (((t.diffAll name looks).1.diffAll name more).1,
        (t.diffAll name looks).2 ++ ((t.diffAll name looks).1.diffAll name more).2) := by
  simp only [diffAll_eq, List.flatMap_append, observeAll_append]

/-- What the events of a list of states are. -/
structure Tells (pod : String) (l : List ContainerStatus) (events : List ContainerEvent) : Prop where
  /-- Of each container there is at most one start and at most one termination. -/
  starts_le_one : ∀ c, events.countP (fun e => !e.isTerminal && e.container = c) ≤ 1
  ends_le_one : ∀ c, events.countP (fun e => e.isTerminal && e.container = c) ≤ 1
  /-- Every termination comes behind a start of the same container. -/
  ordered : Ordered events
  startedIn_iff : ∀ c, StartedIn events c ↔ ∃ s ∈ l, s.name = c ∧ s.HasBegun
  endedIn_iff : ∀ c, EndedIn events c ↔ ∃ s ∈ l, s.name = c ∧ s.HasEnded
  /-- A termination is that of the first state which shows one. -/
  ended_first : ∀ e ∈ events, e.isTerminal = true → ∃ earlier s later state t,
    l = earlier ++ s :: later ∧ s.name = e.container ∧
      (∀ s' ∈ earlier, s'.name = e.container → ¬ s'.HasEnded) ∧
      s.state = some state ∧ state.terminated = some t ∧
      e = .terminated pod s.name t.startedAt t.finishedAt t.exitCode t.reason t.message

theorem Firsts.ended_first {pod : String} {l : List ContainerStatus} {events : List ContainerEvent}
    (h : Firsts pod l events) {e : ContainerEvent} (he : e ∈ events) (hend : e.isTerminal = true) :
    ∃ earlier s later state t, l = earlier ++ s :: later ∧ s.name = e.container ∧
      (∀ s' ∈ earlier, s'.name = e.container → ¬ s'.HasEnded) ∧
      s.state = some state ∧ state.terminated = some t ∧
      e = .terminated pod s.name t.startedAt t.finishedAt t.exitCode t.reason t.message := by
  have hfirst : firstEnd pod e.container l = some e := by
    rcases (h.mem_iff e).mp he with hstart | hfirst
    · rw [(of_firstStart hstart).1] at hend
      cases hend
    · exact hfirst
  obtain ⟨earlier, s, later, hl, hs, hearlier⟩ := List.findSome?_eq_some_iff.mp hfirst
  by_cases hname : s.name = e.container
  · rw [if_pos hname, ContainerStatus.end?, Option.map_eq_some_iff] at hs
    obtain ⟨t, ht, heq⟩ := hs
    obtain ⟨state, hstate, ht⟩ := Option.bind_eq_some_iff.mp ht
    refine ⟨earlier, s, later, state, t, hl, hname, fun s' hs' hname' hended => ?_, hstate, ht,
      heq.symm⟩
    have hnone := hearlier s' hs'
    rw [if_pos hname'] at hnone
    have hsome : (s'.end? pod).isSome = true := ContainerStatus.isSome_end?.mpr hended
    rw [hnone] at hsome
    cases hsome
  · rw [if_neg hname] at hs
    cases hs

theorem Firsts.countP_le_one {pod : String} {l : List ContainerStatus} {events : List ContainerEvent}
    (h : Firsts pod l events) (c : String) (terminal : Bool) :
    events.countP (fun e => e.isTerminal == terminal && e.container = c) ≤ 1 := by
  have hcount : events.countP (fun e => e.isTerminal == terminal && e.container = c) =
      (eventsOf c events).countP fun e => e.isTerminal == terminal := by
    rw [eventsOf, List.countP_filter]
  rw [hcount, h c, List.countP_append]
  have hstart : ∀ e, firstStart pod c l = some e → e.isTerminal = false ∧ e.container = c :=
    fun _ => of_firstStart
  have hend : ∀ e, firstEnd pod c l = some e → e.isTerminal = true ∧ e.container = c :=
    fun _ => of_firstEnd
  cases hs : firstStart pod c l <;> cases he : firstEnd pod c l <;> cases terminal <;>
    simp_all

theorem Firsts.tells {pod : String} {l : List ContainerStatus} {events : List ContainerEvent}
    (h : Firsts pod l events) (hordered : Ordered events) : Tells pod l events where
  starts_le_one := fun c => by simpa using h.countP_le_one c false
  ends_le_one := fun c => by simpa using h.countP_le_one c true
  ordered := hordered
  startedIn_iff := fun c => (h.startedIn_iff c).trans isSome_firstStart
  endedIn_iff := fun c => (h.endedIn_iff c).trans isSome_firstEnd
  ended_first := fun _ => h.ended_first

/-- Over any looks at a pod each container that was seen to begin is reported once, each that was
seen to end once more behind that and as it was first seen. A look that is repeated at once reports
nothing. -/
theorem diffAll_tells (name : String) (looks : List Pod) :
    Tells name (looks.flatMap Pod.containerStatuses) (fresh.diffAll name looks).2 ∧
      ∀ pod, ((fresh.diffAll name (looks ++ [pod])).1.diff name pod).2 = [] := by
  have hreported := fun l => Reported.fresh.observeAll name l
  have hfirsts := fun l => (Firsts.nil name).observeAll .fresh l
  simp only [List.nil_append] at hreported hfirsts
  refine ⟨?_, fun pod => ?_⟩
  · rw [diffAll_eq]
    exact (hfirsts _).tells (hreported _).ordered
  · rw [diffAll_eq, diff, observeAll_of_knows]
    intro s hs
    refine (hfirsts _).knows (hreported _) ?_
    simp [hs]

end Tracker

end StagedTests
