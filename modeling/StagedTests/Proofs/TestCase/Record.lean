import Mathlib.Data.List.Count
import Mathlib.Data.List.Nodup
import StagedTests.Proofs.Container.Event
import StagedTests.TestCase.Record

/-!
# Records and what they have seen

A record reflects the events it has taken in: the containers that were heard of are those of the
events, and those with a case are the ones that have ended or, behind a cancellation, all of them.
No container has two cases.
-/

namespace StagedTests

namespace Record

theorem caseName_injective : Function.Injective caseName := by
  intro c d h
  simpa [caseName, toString, ← String.toList_inj] using h

def seen (r : Record) : List String := r.started.map (·.1)

def running (r : Record) : List String := r.seen.filter fun c => !r.isFinished c

def aborted (now : Instant) (e : String × Instant) : TestCase :=
  ⟨caseName e.1, duration e.2 now,
    some s!"container {e.1} was still running when the test was cancelled"⟩

section

variable (r : Record) (c : String) (start now : Instant)

theorem isStarted_iff : r.isStarted c = true ↔ c ∈ r.seen := by
  simp [isStarted, startOf?, seen]

theorem isFinished_iff : r.isFinished c = true ↔ c ∈ r.finished := by
  simp [isFinished]

theorem mem_running_iff : c ∈ r.running ↔ c ∈ r.seen ∧ c ∉ r.finished := by
  simp [running, ← isFinished_iff]

theorem mem_seen_markStarted (d : String) :
    d ∈ (r.markStarted c start).seen ↔ d ∈ r.seen ∨ d = c := by
  unfold markStarted
  split
  · rename_i h
    refine ⟨.inl, ?_⟩
    rintro (hd | rfl)
    · exact hd
    · exact (r.isStarted_iff d).mp h
  · simp [seen]

theorem finished_markStarted : (r.markStarted c start).finished = r.finished := by
  unfold markStarted
  split <;> rfl

theorem cases_markStarted : (r.markStarted c start).cases = r.cases := by
  unfold markStarted
  split <;> rfl

theorem cancelled_markStarted : (r.markStarted c start).cancelled = r.cancelled := by
  unfold markStarted
  split <;> rfl

theorem foldl_abort (l : List (String × Instant)) :
    l.foldl (abort now) r =
      { r with
        finished := (l.map (·.1)).reverse ++ r.finished
        cases := r.cases ++ l.map (aborted now) } := by
  induction l generalizing r with
  | nil => simp
  | cons e l ih => simp [ih, abort, addCase, aborted]

theorem cancel_eq :
    r.cancel now =
      { r with
        finished := r.running.reverse ++ r.finished
        cases := r.cases ++ (r.started.filter fun e => !r.isFinished e.1).map (aborted now)
        cancelled := true } := by
  have hrunning : r.running = (r.started.filter fun e => !r.isFinished e.1).map (·.1) := by
    simp only [running, seen, List.filter_map, Function.comp_def]
  rw [hrunning, cancel, foldl_abort]
  rfl

/-- An event is of no use to a record, or it is the start of a container, or it brings a case. -/
theorem observe_cases (e : ContainerEvent) :
    (r.observe now e = r ∧
      (if e.isTerminal then e.container ∈ r.finished else e.container ∈ r.seen)) ∨
    (∃ start, r.observe now e = r.markStarted e.container start ∧ e.isTerminal = false ∧
      e.container ∉ r.seen ∧ r.cancelled = false) ∨
    ∃ start seconds failure,
      r.observe now e = (r.markStarted e.container start).addCase e.container
        ⟨caseName e.container, seconds, failure⟩ ∧
      (if e.isTerminal then e.container ∉ r.finished
        else e.container ∉ r.seen ∧ r.cancelled = true) := by
  cases e with
  | started pod container startedAt =>
    simp only [observe, ← isStarted_iff, ContainerEvent.container, ContainerEvent.isTerminal]
    by_cases hs : r.isStarted container = true
    · exact .inl ⟨if_pos hs, hs⟩
    · rw [if_neg hs, cancelled_markStarted]
      cases hc : r.cancelled with
      | false => exact .inr (.inl ⟨_, rfl, trivial, hs, rfl⟩)
      | true => exact .inr (.inr ⟨_, _, _, rfl, by simpa using hs⟩)
  | terminated pod container startedAt finishedAt exitCode reason message =>
    simp only [observe, ← isFinished_iff, ContainerEvent.container, ContainerEvent.isTerminal]
    by_cases hf : r.isFinished container = true
    · exact .inl ⟨if_pos hf, hf⟩
    · rw [if_neg hf]
      exact .inr (.inr ⟨_, _, _, rfl, hf⟩)

end

/-- What holds of a record whatever it has taken in. -/
structure Sound (r : Record) : Prop where
  seen_nodup : r.seen.Nodup
  finished_nodup : r.finished.Nodup
  finished_seen : ∀ c ∈ r.finished, c ∈ r.seen
  cases_names : r.cases.map (·.name) = r.finished.reverse.map caseName

namespace Sound

variable {r : Record}

theorem fresh : Sound fresh := ⟨List.nodup_nil, List.nodup_nil, (fun _ h => nomatch h), rfl⟩

theorem markStarted (h : Sound r) (c : String) (start : Instant) :
    Sound (r.markStarted c start) := by
  refine ⟨?_, ?_, fun d hd => ?_, ?_⟩
  · unfold Record.markStarted
    split
    · exact h.seen_nodup
    · rename_i hc
      rw [isStarted_iff] at hc
      simpa [seen, List.nodup_append] using ⟨h.seen_nodup, fun a b hab => by
        rintro rfl; exact hc (List.mem_map.mpr ⟨(a, b), hab, rfl⟩)⟩
  · rw [finished_markStarted]
    exact h.finished_nodup
  · rw [finished_markStarted] at hd
    exact (mem_seen_markStarted ..).mpr (.inl (h.finished_seen d hd))
  · rw [finished_markStarted, cases_markStarted]
    exact h.cases_names

theorem addCase (h : Sound r) {c : String} (hseen : c ∈ r.seen) (hc : c ∉ r.finished)
    (seconds : Binary64) (failure : Option String) :
    Sound (r.addCase c ⟨caseName c, seconds, failure⟩) := by
  refine ⟨h.seen_nodup, List.nodup_cons.mpr ⟨hc, h.finished_nodup⟩,
    List.forall_mem_cons.mpr ⟨hseen, h.finished_seen⟩, ?_⟩
  simp [Record.addCase, h.cases_names]

theorem cancel (h : Sound r) (now : Instant) : Sound (r.cancel now) := by
  rw [cancel_eq]
  refine ⟨h.seen_nodup, ?_, fun c hc => ?_, ?_⟩
  · refine List.nodup_append.mpr
      ⟨List.nodup_reverse.mpr (h.seen_nodup.filter _), h.finished_nodup, ?_⟩
    rintro c hc _ hd rfl
    exact ((r.mem_running_iff c).mp (List.mem_reverse.mp hc)).2 hd
  · rcases List.mem_append.mp hc with hc | hc
    · exact ((r.mem_running_iff c).mp (List.mem_reverse.mp hc)).1
    · exact h.finished_seen c hc
  · have hnames : ((r.started.filter fun e => !r.isFinished e.1).map (aborted now)).map (·.name) =
        r.running.map caseName := by
      simp only [running, seen, List.filter_map, List.map_map, Function.comp_def, aborted]
    simp only [List.map_append, hnames, h.cases_names, List.reverse_append, List.reverse_reverse]

theorem observe (h : Sound r) (now : Instant) (e : ContainerEvent) : Sound (r.observe now e) := by
  rcases r.observe_cases now e with ⟨heq, -⟩ | ⟨start, heq, -⟩ |
    ⟨start, seconds, failure, heq, hnew⟩
  · rwa [heq]
  · rw [heq]
    exact h.markStarted _ _
  · rw [heq]
    refine (h.markStarted _ _).addCase ((mem_seen_markStarted ..).mpr (.inr rfl)) ?_ _ _
    rw [finished_markStarted]
    split at hnew
    · exact hnew
    · exact fun hf => hnew.1 (h.finished_seen _ hf)

theorem mem_seen_observe (h : Sound r) (now : Instant) (e : ContainerEvent) (c : String) :
    c ∈ (r.observe now e).seen ↔ c ∈ r.seen ∨ c = e.container := by
  rcases r.observe_cases now e with ⟨heq, hold⟩ | ⟨start, heq, -⟩ | ⟨start, _, _, heq, -⟩
  · have hseen : e.container ∈ r.seen := by
      split at hold
      · exact h.finished_seen _ hold
      · exact hold
    rw [heq]
    exact ⟨.inl, fun hc => hc.elim id fun hc => hc ▸ hseen⟩
  · rw [heq, mem_seen_markStarted]
  · rw [heq]
    exact mem_seen_markStarted ..

end Sound

theorem mem_finished_observe (r : Record) (now : Instant) (e : ContainerEvent) (c : String) :
    c ∈ (r.observe now e).finished ↔ c ∈ r.finished ∨
      c = e.container ∧ (e.isTerminal = true ∨ r.cancelled = true ∧ e.container ∉ r.seen) := by
  rcases r.observe_cases now e with ⟨heq, hold⟩ | ⟨start, heq, hstart, -, hgoing⟩ |
    ⟨start, _, _, heq, hnew⟩
  · rw [heq]
    refine ⟨.inl, fun hc => hc.elim id ?_⟩
    rintro ⟨rfl, hend | ⟨-, hunseen⟩⟩
    · rwa [if_pos hend] at hold
    · split at hold
      · exact hold
      · exact absurd hold hunseen
  · rw [heq, finished_markStarted]
    simp [hstart, hgoing]
  · have hreason : e.isTerminal = true ∨ r.cancelled = true ∧ e.container ∉ r.seen := by
      split at hnew
      · exact .inl ‹_›
      · exact .inr ⟨hnew.2, hnew.1⟩
    have hfinished : (r.observe now e).finished = e.container :: r.finished := by
      rw [heq, ← r.finished_markStarted e.container start]
      rfl
    rw [hfinished, List.mem_cons, or_comm, and_iff_left hreason]

theorem cancelled_observe (r : Record) (now : Instant) (e : ContainerEvent) :
    (r.observe now e).cancelled = r.cancelled := by
  rcases r.observe_cases now e with ⟨heq, -⟩ | ⟨start, heq, -⟩ | ⟨start, _, _, heq, -⟩
  · rw [heq]
  · rw [heq, cancelled_markStarted]
  · rw [heq]
    exact r.cancelled_markStarted ..

/-- A record is one of these events. -/
structure Reflects (events : List ContainerEvent) (r : Record) : Prop extends Sound r where
  seen_iff : ∀ c, c ∈ r.seen ↔ StartedIn events c ∨ EndedIn events c
  finished_iff : ∀ c, c ∈ r.finished ↔ c ∈ r.seen ∧ (r.cancelled = true ∨ EndedIn events c)

namespace Reflects

variable {events : List ContainerEvent} {r : Record}

theorem fresh : Reflects [] fresh where
  toSound := .fresh
  seen_iff := by simp [seen, Record.fresh, StartedIn, EndedIn]
  finished_iff := by simp [seen, Record.fresh]

theorem cancel (h : Reflects events r) (now : Instant) : Reflects events (r.cancel now) := by
  refine ⟨h.toSound.cancel now, fun c => ?_, fun c => ?_⟩
  · rw [cancel_eq]
    exact h.seen_iff c
  · have hfinished := h.finished_iff c
    have hrunning := r.mem_running_iff c
    rw [cancel_eq]
    simp only [List.mem_append, List.mem_reverse, true_or, and_true]
    change _ ↔ c ∈ r.seen
    tauto

theorem observe (h : Reflects events r) (now : Instant) (e : ContainerEvent) :
    Reflects (events ++ [e]) (r.observe now e) := by
  refine ⟨h.toSound.observe now e, fun c => ?_, fun c => ?_⟩
  · rw [h.mem_seen_observe, h.seen_iff, startedIn_append, endedIn_append, startedIn_singleton,
      endedIn_singleton]
    cases e.isTerminal <;> simp <;> tauto
  · rw [mem_finished_observe, h.mem_seen_observe, h.finished_iff, cancelled_observe,
      endedIn_append, endedIn_singleton]
    have hended : EndedIn events c → c ∈ r.seen := fun hc => (h.seen_iff c).mpr (.inr hc)
    by_cases hc : c = e.container
    · subst hc
      tauto
    · have hne : e.container ≠ c := Ne.symm hc
      tauto

theorem count_case (h : Reflects events r) (c : String) :
    (r.cases.map (·.name)).count (caseName c) = if c ∈ r.finished then 1 else 0 := by
  rw [h.cases_names, List.count_map_of_injective _ _ caseName_injective, List.count_reverse,
    h.finished_nodup.count]

end Reflects

/-- Every container that started has exactly one case, and no other container has one. -/
structure OneCaseEach (events : List ContainerEvent) (r : Record) : Prop where
  started : ∀ c, StartedIn events c → (r.cases.map (·.name)).count (caseName c) = 1
  others : ∀ c, ¬ StartedIn events c → (r.cases.map (·.name)).count (caseName c) = 0
  named : ∀ x ∈ r.cases, ∃ c, x.name = caseName c

/-- A record of ordered events has one case for each container that started if it was cancelled or
if all of them have ended, and only then. -/
theorem Reflects.oneCaseEach_iff {events : List ContainerEvent} {r : Record}
    (h : Reflects events r) (hordered : Ordered events) :
    OneCaseEach events r ↔
      r.cancelled = true ∨ ∀ c, StartedIn events c → EndedIn events c := by
  have hmem : ∀ c, c ∈ r.finished ↔
      StartedIn events c ∧ (r.cancelled = true ∨ EndedIn events c) := by
    intro c
    rw [h.finished_iff, h.seen_iff, or_iff_left_of_imp hordered.startedIn]
  constructor
  · intro hone
    by_contra hnot
    push Not at hnot
    obtain ⟨hgoing, c, hstart, hend⟩ := hnot
    have hcount := hone.started c hstart
    rw [h.count_case, if_neg fun hc => ((hmem c).mp hc).2.elim hgoing hend] at hcount
    cases hcount
  · intro hdone
    refine ⟨fun c hstart => ?_, fun c hstart => ?_, fun x hx => ?_⟩
    · rw [h.count_case, if_pos ((hmem c).mpr ⟨hstart, hdone.imp_right fun hall => hall c hstart⟩)]
    · rw [h.count_case, if_neg fun hc => hstart ((hmem c).mp hc).1]
    · have hname : x.name ∈ r.cases.map (·.name) := List.mem_map_of_mem hx
      rw [h.cases_names] at hname
      obtain ⟨c, -, hc⟩ := List.mem_map.mp hname
      exact ⟨c, hc.symm⟩

end Record

end StagedTests
