import Mathlib.Data.List.Induction
import StagedTests.Proofs.TestCase.Record

/-!
# What a record is told

A record is told of events and of the cancellation of the test, in any order and any number of
times. Of every container it closes at most one case, at one notice of its history: at the first
termination if the test goes on until then or nothing else was heard of the container, at the first
cancellation if the container is running by then, or at a start behind a cancellation.
-/

namespace StagedTests

/-- What a record is told, and when. -/
inductive Notice
  | event (now : Instant) (e : ContainerEvent)
  | cancel (now : Instant)
  deriving DecidableEq

namespace Notice

def event? : Notice → Option ContainerEvent
  | .event _ e => some e
  | .cancel _ => none

def startOf? (c : String) : Notice → Option Instant
  | .event now (.started _ container startedAt) =>
    if container = c then some (startedAt.getD now) else none
  | _ => none

end Notice

/-! ## Histories -/

def eventsIn (h : List Notice) : List ContainerEvent := h.filterMap Notice.event?

def CancelledIn (h : List Notice) : Prop := ∃ now, Notice.cancel now ∈ h

def HeardIn (h : List Notice) (c : String) : Prop :=
  StartedIn (eventsIn h) c ∨ EndedIn (eventsIn h) c

def firstStart? (h : List Notice) (c : String) : Option Instant := h.findSome? (Notice.startOf? c)

section

variable (h k : List Notice) (c : String)

theorem eventsIn_append : eventsIn (h ++ k) = eventsIn h ++ eventsIn k := List.filterMap_append

theorem cancelledIn_append : CancelledIn (h ++ k) ↔ CancelledIn h ∨ CancelledIn k := by
  simp only [CancelledIn, List.mem_append, exists_or]

theorem cancelledIn_singleton (n : Notice) : CancelledIn [n] ↔ ∃ now, n = .cancel now := by
  simp [CancelledIn, eq_comm]

theorem endedIn_eventsIn_append :
    EndedIn (eventsIn (h ++ k)) c ↔ EndedIn (eventsIn h) c ∨ EndedIn (eventsIn k) c := by
  rw [eventsIn_append, endedIn_append]

theorem heardIn_append : HeardIn (h ++ k) c ↔ HeardIn h c ∨ HeardIn k c := by
  simp only [HeardIn, eventsIn_append, startedIn_append, endedIn_append]
  tauto

theorem heardIn_event (now : Instant) (e : ContainerEvent) :
    HeardIn [.event now e] c ↔ e.container = c := by
  have hevents : eventsIn [.event now e] = [e] := rfl
  rw [HeardIn, hevents, startedIn_singleton, endedIn_singleton]
  cases e.isTerminal <;> simp

theorem firstStart?_append : firstStart? (h ++ k) c = (firstStart? h c).or (firstStart? k c) :=
  List.findSome?_append

theorem firstStart?_singleton (n : Notice) : firstStart? [n] c = n.startOf? c := by
  rw [firstStart?, List.findSome?_cons]
  cases n.startOf? c <;> rfl

theorem heardIn_of_firstStart? {h : List Notice} {c : String} {start : Instant}
    (hstart : firstStart? h c = some start) : HeardIn h c := by
  obtain ⟨n, hn, hs⟩ := List.exists_of_findSome?_eq_some hstart
  obtain ⟨before, after, rfl⟩ := List.append_of_mem hn
  rw [← List.singleton_append, heardIn_append, heardIn_append]
  match n, hs with
  | .event now (.started pod container startedAt), hs =>
    rw [heardIn_event]
    simp only [Notice.startOf?, Option.ite_none_right_eq_some] at hs
    exact .inr (.inl hs.1)

end

/-! ## The case of a container -/

namespace Record

/-- The whole milliseconds from a start to an end; none if the end comes first. -/
def millis (start finish : Instant) : Nat := (finish.nanosSince start).toNat / 1000000

theorem duration_eq (start finish : Instant) :
    duration start finish = .ofThousandths (millis start finish) := by
  have h : ((finish.nanosSince start).tdiv 1000000).toNat =
      (finish.nanosSince start).toNat / 1000000 := by
    rcases Int.le_total 0 (finish.nanosSince start) with hn | hn
    · rw [Int.tdiv_eq_ediv_of_nonneg hn]
      omega
    · obtain ⟨m, hm⟩ := Int.eq_ofNat_of_zero_le (Int.neg_nonneg.mpr hn)
      have hneg : finish.nanosSince start = -(m : Int) := by omega
      rw [hneg, Int.neg_tdiv, Int.tdiv_eq_ediv_of_nonneg (by omega)]
      omega
  rw [duration, millis, Instant.millisSince, h]

def stoppedText (c : String) : String :=
  s!"container {c} was still running when the test was cancelled"

/-- A failure of a container never reads like a cancellation. -/
theorem failureText_ne (c : String) (exitCode : Int) (reason message : Option String) :
    failureText c exitCode reason message ≠ stoppedText c := by
  have hline : ∃ rest : String, failureText c exitCode reason message =
      "container " ++ c ++ " exited with code " ++ rest := by
    unfold failureText
    cases message with
    | none => exact ⟨_, by simp [toString, String.append_assoc]; rfl⟩
    | some m =>
      by_cases hm : m = ""
      · exact ⟨_, by simp [hm, toString, String.append_assoc]; rfl⟩
      · exact ⟨_, by simp [hm, toString, String.append_assoc]; rfl⟩
  obtain ⟨rest, hline⟩ := hline
  intro h
  rw [hline] at h
  have hlist := congrArg String.toList h
  simp [stoppedText, toString] at hlist

def stoppedCase (c : String) (start now : Instant) : TestCase :=
  ⟨caseName c, .ofThousandths (millis start now), some (stoppedText c)⟩

def endedCase (c : String) (start finish : Instant) (exitCode : Int)
    (reason message : Option String) : TestCase :=
  ⟨caseName c, .ofThousandths (millis start finish),
    if exitCode = 0 then none else some (failureText c exitCode reason message)⟩

theorem aborted_eq (c : String) (start now : Instant) :
    aborted now (c, start) = stoppedCase c start now := by
  rw [aborted, stoppedCase, duration_eq]
  rfl

/-- A notice behind some others closes the case of a container. -/
inductive Closes (before : List Notice) (c : String) : Notice → TestCase → Prop
  | ended (now : Instant) (pod : String) (startedAt finishedAt : Option Instant) (exitCode : Int)
      (reason message : Option String) (first : ¬ EndedIn (eventsIn before) c)
      (inTime : ¬ CancelledIn before ∨ ¬ HeardIn before c) :
      Closes before c (.event now (.terminated pod c startedAt finishedAt exitCode reason message))
        (endedCase c ((startedAt.or (firstStart? before c)).getD now) (finishedAt.getD now)
          exitCode reason message)
  | stopped (now start : Instant) (started : firstStart? before c = some start)
      (running : ¬ EndedIn (eventsIn before) c) (first : ¬ CancelledIn before) :
      Closes before c (.cancel now) (stoppedCase c start now)
  | late (now : Instant) (pod : String) (startedAt : Option Instant)
      (cancelled : CancelledIn before) (first : ¬ HeardIn before c) :
      Closes before c (.event now (.started pod c startedAt))
        (stoppedCase c (startedAt.getD now) now)

def ClosedIn (h : List Notice) (c : String) (x : TestCase) : Prop :=
  ∃ before n after, h = before ++ n :: after ∧ Closes before c n x

theorem ClosedIn.append {h : List Notice} {c : String} {x : TestCase} (hx : ClosedIn h c x)
    (more : List Notice) : ClosedIn (h ++ more) c x := by
  obtain ⟨before, n, after, rfl, hn⟩ := hx
  exact ⟨before, n, after ++ more, by simp, hn⟩

theorem Closes.closedIn {h : List Notice} {n : Notice} {c : String} {x : TestCase}
    (hn : Closes h c n x) : ClosedIn (h ++ [n]) c x := ⟨h, n, [], rfl, hn⟩

theorem Closes.name_eq {before : List Notice} {n : Notice} {c : String} {x : TestCase}
    (h : Closes before c n x) : x.name = caseName c := by
  cases h <;> rfl

/-! ## What a record knows of a history -/

def take (r : Record) : Notice → Record
  | .event now e => r.observe now e
  | .cancel now => r.cancel now

theorem startOf?_markStarted (r : Record) (c d : String) (start : Instant) :
    (r.markStarted d start).startOf? c =
      (r.startOf? c).or (if d = c then some start else none) := by
  unfold markStarted
  split
  · rename_i hd
    by_cases hdc : d = c
    · subst hdc
      obtain ⟨s, hs⟩ := Option.isSome_iff_exists.mp hd
      rw [hs, Option.some_or]
    · rw [if_neg hdc, Option.or_none]
  · have hfind : ((r.started ++ [(d, start)]).find? fun e => e.1 = c) =
        (r.started.find? fun e => e.1 = c).or (if d = c then some (d, start) else none) := by
      by_cases hdc : d = c <;> simp [hdc]
    simp only [startOf?, hfind]
    cases r.started.find? fun e => e.1 = c with
    | none => by_cases hdc : d = c <;> simp [hdc]
    | some e => rfl

theorem startOf?_of_mem {r : Record} (h : r.seen.Nodup) {e : String × Instant}
    (he : e ∈ r.started) : r.startOf? e.1 = some e.2 := by
  unfold startOf?
  cases hf : r.started.find? fun x => x.1 = e.1 with
  | none => exact absurd (by simp) (List.find?_eq_none.mp hf e he)
  | some x =>
    have hx : x.1 = e.1 := by simpa using List.find?_some hf
    have heq : x = e := List.inj_on_of_nodup_map h (List.mem_of_find?_eq_some hf) he hx
    rw [heq, Option.map_some]

theorem observe_started_of_unseen {r : Record} {c : String} (hc : c ∉ r.seen) (now : Instant)
    (pod : String) (startedAt : Option Instant) :
    r.observe now (.started pod c startedAt) =
      if r.cancelled then (r.markStarted c (startedAt.getD now)).addCase c
        (stoppedCase c (startedAt.getD now) now)
      else r.markStarted c (startedAt.getD now) := by
  rw [← isStarted_iff] at hc
  rw [observe, if_neg hc]
  simp only [cancelled_markStarted, ← aborted_eq]
  rfl

theorem observe_terminated_of_unfinished {r : Record} {c : String} (hc : c ∉ r.finished)
    (now : Instant) (pod : String) (startedAt finishedAt : Option Instant) (exitCode : Int)
    (reason message : Option String) :
    r.observe now (.terminated pod c startedAt finishedAt exitCode reason message) =
      (r.markStarted c ((startedAt.or (r.startOf? c)).getD now)).addCase c
        (endedCase c ((startedAt.or (r.startOf? c)).getD now) (finishedAt.getD now) exitCode
          reason message) := by
  rw [← isFinished_iff] at hc
  rw [observe, if_neg hc, endedCase, ← duration_eq]

theorem startOf?_observe_started (r : Record) (now : Instant) (pod c d : String)
    (startedAt : Option Instant) :
    (r.observe now (.started pod d startedAt)).startOf? c =
      (r.markStarted d (startedAt.getD now)).startOf? c := by
  by_cases hd : d ∈ r.seen
  · rw [← isStarted_iff] at hd
    rw [observe, if_pos hd, markStarted, if_pos hd]
  · rw [observe_started_of_unseen hd]
    split <;> rfl

/-- A record is one of this history. -/
structure Recalls (h : List Notice) (r : Record) : Prop where
  reflects : Reflects (eventsIn h) r
  cancelled_iff : r.cancelled = true ↔ CancelledIn h
  /-- The start of a container is remembered as long as its case is open. -/
  startOf?_eq : ∀ c, c ∉ r.finished → r.startOf? c = firstStart? h c
  closed : ∀ x ∈ r.cases, ∃ c, ClosedIn h c x

namespace Recalls

variable {h : List Notice} {r : Record}

theorem fresh : Recalls [] Record.fresh where
  reflects := .fresh
  cancelled_iff := by simp [Record.fresh, CancelledIn]
  startOf?_eq := by simp [Record.fresh, startOf?, firstStart?]
  closed := by simp [Record.fresh]

theorem mem_seen_iff (hr : Recalls h r) (c : String) : c ∈ r.seen ↔ HeardIn h c :=
  hr.reflects.seen_iff c

theorem not_ended (hr : Recalls h r) {c : String} (hc : c ∉ r.finished) :
    ¬ EndedIn (eventsIn h) c := by
  intro hend
  have hseen : c ∈ r.seen := (hr.reflects.seen_iff c).mpr (.inr hend)
  exact hc ((hr.reflects.finished_iff c).mpr ⟨hseen, .inr hend⟩)

/-- An open case belongs to a container that was not heard of or to a test that goes on. -/
theorem not_cancelled_or_not_heard (hr : Recalls h r) {c : String} (hc : c ∉ r.finished) :
    ¬ CancelledIn h ∨ ¬ HeardIn h c := by
  by_contra hnot
  push Not at hnot
  have hseen : c ∈ r.seen := (hr.mem_seen_iff c).mpr hnot.2
  exact hc ((hr.reflects.finished_iff c).mpr ⟨hseen, .inl (hr.cancelled_iff.mpr hnot.1)⟩)

theorem cancel (hr : Recalls h r) (now : Instant) :
    Recalls (h ++ [.cancel now]) (r.cancel now) where
  reflects := by
    have hevents : eventsIn (h ++ [.cancel now]) = eventsIn h := by
      rw [eventsIn_append]
      exact List.append_nil _
    rw [hevents]
    exact hr.reflects.cancel now
  cancelled_iff := by
    rw [cancel_eq, cancelledIn_append, cancelledIn_singleton]
    simp
  startOf?_eq := by
    intro c hc
    rw [cancel_eq] at hc
    have hopen : c ∉ r.finished := fun hf => hc (List.mem_append.mpr (.inr hf))
    have hstart : (r.cancel now).startOf? c = r.startOf? c := by
      rw [cancel_eq]
      rfl
    rw [hstart, hr.startOf?_eq c hopen, firstStart?_append, firstStart?_singleton]
    exact Option.or_none.symm
  closed := by
    intro x hx
    rw [cancel_eq] at hx
    rcases List.mem_append.mp hx with hx | hx
    · obtain ⟨c, hc⟩ := hr.closed x hx
      exact ⟨c, hc.append _⟩
    · obtain ⟨e, he, rfl⟩ := List.mem_map.mp hx
      obtain ⟨hmem, hopen⟩ := List.mem_filter.mp he
      have hopen : e.1 ∉ r.finished := by simpa [isFinished] using hopen
      have hseen : e.1 ∈ r.seen := List.mem_map_of_mem hmem
      have hstart : firstStart? h e.1 = some e.2 := by
        rw [← hr.startOf?_eq e.1 hopen]
        exact startOf?_of_mem hr.reflects.seen_nodup hmem
      have hgoing : ¬ CancelledIn h :=
        (hr.not_cancelled_or_not_heard hopen).resolve_right
          (not_not.mpr ((hr.mem_seen_iff e.1).mp hseen))
      refine ⟨e.1, ?_⟩
      rw [aborted_eq]
      exact (Closes.stopped now e.2 hstart (hr.not_ended hopen) hgoing).closedIn

theorem observe_cancelled_iff (hr : Recalls h r) (now : Instant) (e : ContainerEvent) :
    (r.observe now e).cancelled = true ↔ CancelledIn (h ++ [.event now e]) := by
  rw [cancelled_observe, hr.cancelled_iff, cancelledIn_append, cancelledIn_singleton]
  simp

theorem observe_reflects (hr : Recalls h r) (now : Instant) (e : ContainerEvent) :
    Reflects (eventsIn (h ++ [.event now e])) (r.observe now e) := by
  rw [eventsIn_append]
  exact hr.reflects.observe now e

theorem closed_append (hr : Recalls h r) (n : Notice) {x : TestCase} (hx : x ∈ r.cases) :
    ∃ c, ClosedIn (h ++ [n]) c x := by
  obtain ⟨c, hc⟩ := hr.closed x hx
  exact ⟨c, hc.append [n]⟩

theorem start (hr : Recalls h r) (now : Instant) (pod d : String) (startedAt : Option Instant) :
    Recalls (h ++ [.event now (.started pod d startedAt)])
      (r.observe now (.started pod d startedAt)) where
  reflects := hr.observe_reflects now _
  cancelled_iff := hr.observe_cancelled_iff now _
  startOf?_eq := by
    intro c hc
    rw [mem_finished_observe] at hc
    have hopen : c ∉ r.finished := fun hf => hc (.inl hf)
    rw [startOf?_observe_started, startOf?_markStarted, hr.startOf?_eq c hopen,
      firstStart?_append, firstStart?_singleton]
    rfl
  closed := by
    intro x hx
    by_cases hd : d ∈ r.seen
    · rw [← isStarted_iff] at hd
      rw [observe, if_pos hd] at hx
      exact hr.closed_append _ hx
    · rw [observe_started_of_unseen hd] at hx
      split at hx
      · rename_i hcancelled
        rcases List.mem_append.mp hx with hx | hx
        · rw [cases_markStarted] at hx
          exact hr.closed_append _ hx
        · have hunheard : ¬ HeardIn h d := fun hh => hd ((hr.mem_seen_iff d).mpr hh)
          rw [List.mem_singleton.mp hx]
          exact ⟨d, (Closes.late now pod startedAt (hr.cancelled_iff.mp hcancelled)
            hunheard).closedIn⟩
      · rw [cases_markStarted] at hx
        exact hr.closed_append _ hx

theorem finish (hr : Recalls h r) (now : Instant) (pod d : String)
    (startedAt finishedAt : Option Instant) (exitCode : Int) (reason message : Option String) :
    Recalls (h ++ [.event now (.terminated pod d startedAt finishedAt exitCode reason message)])
      (r.observe now (.terminated pod d startedAt finishedAt exitCode reason message)) where
  reflects := hr.observe_reflects now _
  cancelled_iff := hr.observe_cancelled_iff now _
  startOf?_eq := by
    intro c hc
    have hopen : c ∉ r.finished := fun hf => hc ((mem_finished_observe ..).mpr (.inl hf))
    have hne : c ≠ d := fun hd => hc ((mem_finished_observe ..).mpr (.inr ⟨hd, .inl rfl⟩))
    have hstart : (r.observe now
        (.terminated pod d startedAt finishedAt exitCode reason message)).startOf? c =
          r.startOf? c := by
      by_cases hd : d ∈ r.finished
      · rw [← isFinished_iff] at hd
        rw [observe, if_pos hd]
      · rw [observe_terminated_of_unfinished hd]
        change (r.markStarted d _).startOf? c = _
        rw [startOf?_markStarted, if_neg (Ne.symm hne), Option.or_none]
    rw [hstart, hr.startOf?_eq c hopen, firstStart?_append, firstStart?_singleton]
    exact Option.or_none.symm
  closed := by
    intro x hx
    by_cases hd : d ∈ r.finished
    · rw [← isFinished_iff] at hd
      rw [observe, if_pos hd] at hx
      exact hr.closed_append _ hx
    · rw [observe_terminated_of_unfinished hd] at hx
      rcases List.mem_append.mp hx with hx | hx
      · rw [cases_markStarted] at hx
        exact hr.closed_append _ hx
      · rw [List.mem_singleton.mp hx, hr.startOf?_eq d hd]
        exact ⟨d, (Closes.ended now pod startedAt finishedAt exitCode reason message
          (hr.not_ended hd) (hr.not_cancelled_or_not_heard hd)).closedIn⟩

theorem take (hr : Recalls h r) (n : Notice) : Recalls (h ++ [n]) (r.take n) := by
  cases n with
  | cancel now => exact hr.cancel now
  | event now e =>
    cases e with
    | started pod d startedAt => exact hr.start now pod d startedAt
    | terminated pod d startedAt finishedAt exitCode reason message =>
      exact hr.finish now pod d startedAt finishedAt exitCode reason message

end Recalls

def ofHistory (h : List Notice) : Record := h.foldl take fresh

theorem ofHistory_recalls (h : List Notice) : Recalls h (ofHistory h) := by
  induction h using List.reverseRecOn with
  | nil => exact .fresh
  | append_singleton h n ih =>
    rw [ofHistory, List.foldl_append]
    exact ih.take n

theorem cases_observe_prefix (r : Record) (now : Instant) (e : ContainerEvent) :
    r.cases <+: (r.observe now e).cases := by
  rcases r.observe_cases now e with ⟨heq, -⟩ | ⟨start, heq, -⟩ | ⟨start, _, _, heq, -⟩
  · exact ⟨[], by rw [heq, List.append_nil]⟩
  · exact ⟨[], by rw [heq, cases_markStarted, List.append_nil]⟩
  · rw [heq, addCase, cases_markStarted]
    exact List.prefix_append _ _

/-- Cases are only put behind those that are there. -/
theorem cases_take_prefix (r : Record) (n : Notice) : r.cases <+: (r.take n).cases := by
  cases n with
  | event now e => exact r.cases_observe_prefix now e
  | cancel now =>
    rw [take, cancel_eq]
    exact List.prefix_append _ _

theorem cases_foldl_prefix (h : List Notice) (r : Record) :
    r.cases <+: (h.foldl take r).cases := by
  induction h generalizing r with
  | nil => exact List.prefix_rfl
  | cons n h ih => exact (r.cases_take_prefix n).trans (ih (r.take n))

end Record

end StagedTests
