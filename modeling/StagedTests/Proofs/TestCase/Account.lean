import StagedTests.Proofs.TestCase.History
import StagedTests.Run.World

/-!
# What the cases say of a history

The case of a container that ends in time tells how it ended; any other case tells that the
container was stopped by the cancellation. Both give the whole milliseconds from the start of the
container on.
-/

namespace StagedTests

namespace Record

/-- The container ends for the first time before the test is cancelled, or nothing was heard of it
until then. -/
def EndsInTime (h : List Notice) (c : String) : Prop :=
  ∃ before now e after, h = before ++ .event now e :: after ∧
    (e.isTerminal = true ∧ e.container = c) ∧ ¬ EndedIn (eventsIn before) c ∧
      (¬ CancelledIn before ∨ ¬ HeardIn before c)

/-- The case tells how the container ended for the first time. -/
def TellsEnd (h : List Notice) (c : String) (x : TestCase) : Prop :=
  ∃ before now pod startedAt finishedAt exitCode reason message after,
    h = before ++
      .event now (.terminated pod c startedAt finishedAt exitCode reason message) :: after ∧
    ¬ EndedIn (eventsIn before) c ∧
    (x.isFailure = true ↔ exitCode ≠ 0) ∧
    (exitCode ≠ 0 → x.failure = some (failureText c exitCode reason message)) ∧
    x.seconds = .ofThousandths
      (millis ((startedAt.or (firstStart? before c)).getD now) (finishedAt.getD now))

/-- The case tells that the container was running when the test was cancelled: it had started
before, or it started afterwards. -/
def TellsStop (h : List Notice) (c : String) (x : TestCase) : Prop :=
  ∃ before n after start now, h = before ++ n :: after ∧
    x.failure = some (stoppedText c) ∧ x.seconds = .ofThousandths (millis start now) ∧
    ((n = .cancel now ∧ ¬ CancelledIn before ∧ firstStart? before c = some start) ∨
      ∃ pod startedAt, n = .event now (.started pod c startedAt) ∧ CancelledIn before ∧
        ¬ HeardIn before c ∧ start = startedAt.getD now)

theorem append_cons_cases {α : Type} {l₁ l₂ m₁ m₂ : List α} {a b : α}
    (h : l₁ ++ a :: m₁ = l₂ ++ b :: m₂) :
    (∃ k, l₂ = l₁ ++ a :: k) ∨ (∃ k, l₁ = l₂ ++ b :: k) ∨ a = b := by
  rcases List.append_eq_append_iff.mp h with ⟨k, rfl, hk⟩ | ⟨k, rfl, hk⟩
  · cases k with
    | nil => exact .inr (.inr (List.cons.inj hk).1)
    | cons x k =>
      obtain ⟨rfl, -⟩ := List.cons.inj hk
      exact .inl ⟨k, rfl⟩
  · cases k with
    | nil => exact .inr (.inr (List.cons.inj hk).1.symm)
    | cons x k =>
      obtain ⟨rfl, -⟩ := List.cons.inj hk
      exact .inr (.inl ⟨k, rfl⟩)

section

variable {h before after : List Notice} {n : Notice} {c : String}

theorem endedIn_of_split {now : Instant} {e : ContainerEvent}
    (hn : e.isTerminal = true ∧ e.container = c) :
    EndedIn (eventsIn (before ++ .event now e :: after)) c := by
  rw [← List.singleton_append, endedIn_eventsIn_append, endedIn_eventsIn_append]
  exact .inr (.inl ((endedIn_singleton ..).mpr hn))

/-- A container whose case is closed by a cancellation does not end in time. -/
theorem not_endsInTime (hsplit : h = before ++ n :: after)
    (hopen : ¬ EndedIn (eventsIn before) c)
    (hcancelled : CancelledIn (before ++ [n])) (hheard : HeardIn (before ++ [n]) c)
    (hn : ∀ now e, n = .event now e → e.isTerminal = false) : ¬ EndsInTime h c := by
  rintro ⟨before', now, e, after', hsplit', hend, hopen', hin⟩
  rcases append_cons_cases (hsplit.symm.trans hsplit') with ⟨k, rfl⟩ | ⟨k, rfl⟩ | rfl
  · rw [← List.singleton_append, ← List.append_assoc, cancelledIn_append, heardIn_append] at hin
    exact hin.elim (fun hin => hin (.inl hcancelled)) fun hin => hin (.inl hheard)
  · exact hopen (endedIn_of_split hend)
  · rw [hn now e rfl] at hend
    exact Bool.noConfusion hend.1

theorem not_tellsEnd {x : TestCase} (hx : x.failure = some (stoppedText c)) : ¬ TellsEnd h c x := by
  rintro ⟨_, _, _, _, _, exitCode, reason, message, _, -, -, hfailure, htext, -⟩
  have hcode : exitCode ≠ 0 := hfailure.mp (by rw [TestCase.isFailure, hx]; rfl)
  rw [hx, Option.some_inj] at htext
  exact failureText_ne c exitCode reason message (htext hcode).symm

/-- A case that is closed tells how the container ended if it did so in time, and that it was
stopped otherwise. -/
theorem ClosedIn.tells {x : TestCase} (hx : ClosedIn h c x) :
    (EndsInTime h c ∧ TellsEnd h c x) ∨
      (¬ EndsInTime h c ∧ ¬ TellsEnd h c x ∧ TellsStop h c x) := by
  obtain ⟨before, n, after, hsplit, hn⟩ := hx
  cases hn with
  | ended now pod startedAt finishedAt exitCode reason message first inTime =>
    left
    constructor
    · exact ⟨before, now, _, after, hsplit, ⟨rfl, rfl⟩, first, inTime⟩
    · refine ⟨before, now, pod, startedAt, finishedAt, exitCode, reason, message, after, hsplit,
        first, ?_, ?_, rfl⟩
      · by_cases hcode : exitCode = 0 <;> simp [endedCase, TestCase.isFailure, hcode]
      · intro hcode
        rw [endedCase, if_neg hcode]
  | stopped now start started running first =>
    right
    refine ⟨?_, not_tellsEnd rfl, ?_⟩
    · refine not_endsInTime hsplit running ?_ ?_ (fun _ _ he => by cases he)
      · exact (cancelledIn_append ..).mpr (.inr ⟨now, List.mem_singleton_self _⟩)
      · exact (heardIn_append ..).mpr (.inl (heardIn_of_firstStart? started))
    · exact ⟨before, _, after, start, now, hsplit, rfl, rfl, .inl ⟨rfl, first, started⟩⟩
  | late now pod startedAt cancelled first =>
    right
    refine ⟨?_, not_tellsEnd rfl, ?_⟩
    · refine not_endsInTime hsplit (fun hend => first (.inr hend)) ?_ ?_ ?_
      · exact (cancelledIn_append ..).mpr (.inl cancelled)
      · exact (heardIn_append ..).mpr (.inr ((heardIn_event ..).mpr rfl))
      · intro _ _ he
        cases he
        rfl
    · exact ⟨before, _, after, _, now, hsplit, rfl, rfl,
        .inr ⟨pod, startedAt, rfl, cancelled, first, rfl⟩⟩

end

/-- What the cases of an observer say of its history. -/
structure Accounts (h : List Notice) (cases : List TestCase) : Prop where
  once : (cases.map (·.name)).Nodup
  heard : ∀ x ∈ cases, ∃ c, HeardIn h c ∧ x.name = caseName c
  going : ¬ CancelledIn h → ∀ c, (∃ x ∈ cases, x.name = caseName c) ↔ EndedIn (eventsIn h) c
  cancelled : CancelledIn h → ∀ c, HeardIn h c → (cases.map (·.name)).count (caseName c) = 1
  tellsEnd_iff : ∀ x ∈ cases, ∀ c, x.name = caseName c → (TellsEnd h c x ↔ EndsInTime h c)
  tellsStop : ∀ x ∈ cases, ∀ c, x.name = caseName c → ¬ EndsInTime h c → TellsStop h c x

namespace Recalls

variable {h : List Notice} {r : Record}

theorem exists_case_iff (hr : Recalls h r) (c : String) :
    (∃ x ∈ r.cases, x.name = caseName c) ↔ c ∈ r.finished := by
  have hname : caseName c ∈ r.cases.map (·.name) ↔ c ∈ r.finished := by
    rw [hr.reflects.cases_names, List.mem_map_of_injective caseName_injective, List.mem_reverse]
  rw [← hname, List.mem_map]

theorem closedIn (hr : Recalls h r) {x : TestCase} (hx : x ∈ r.cases) {c : String}
    (hname : x.name = caseName c) : ClosedIn h c x := by
  obtain ⟨d, before, n, after, hsplit, hn⟩ := hr.closed x hx
  have heq : c = d := caseName_injective (hname.symm.trans hn.name_eq)
  rw [heq]
  exact ⟨before, n, after, hsplit, hn⟩

theorem accounts (hr : Recalls h r) : Accounts h r.cases where
  once := by
    rw [hr.reflects.cases_names]
    exact (List.nodup_reverse.mpr hr.reflects.finished_nodup).map caseName_injective
  heard := by
    intro x hx
    have hname : x.name ∈ r.cases.map (·.name) := List.mem_map_of_mem hx
    rw [hr.reflects.cases_names] at hname
    obtain ⟨c, hc, heq⟩ := List.mem_map.mp hname
    have hseen : c ∈ r.seen := hr.reflects.finished_seen c (List.mem_reverse.mp hc)
    exact ⟨c, (hr.mem_seen_iff c).mp hseen, heq.symm⟩
  going := by
    intro hgoing c
    rw [hr.exists_case_iff, hr.reflects.finished_iff, hr.mem_seen_iff, hr.cancelled_iff]
    have hheard : EndedIn (eventsIn h) c → HeardIn h c := .inr
    tauto
  cancelled := by
    intro hcancelled c hc
    have hfinished : c ∈ r.finished :=
      (hr.reflects.finished_iff c).mpr
        ⟨(hr.mem_seen_iff c).mpr hc, .inl (hr.cancelled_iff.mpr hcancelled)⟩
    rw [hr.reflects.count_case, if_pos hfinished]
  tellsEnd_iff := by
    intro x hx c hname
    rcases (hr.closedIn hx hname).tells with ⟨hin, hend⟩ | ⟨hin, hend, -⟩
    · exact iff_of_true hend hin
    · exact iff_of_false hend hin
  tellsStop := by
    intro x hx c hname hin
    rcases (hr.closedIn hx hname).tells with ⟨hin', -⟩ | ⟨-, -, hstop⟩
    · exact absurd hin' hin
    · exact hstop

end Recalls

end Record

namespace Observer

def take (o : Observer) : Notice → Observer
  | .event now e => o.observe now e
  | .cancel now => o.cancel now

def ofHistory (nested : Nested) (h : List Notice) : Observer := h.foldl take ⟨nested, .fresh⟩

theorem record_foldl_take (h : List Notice) (o : Observer) :
    (h.foldl take o).record = h.foldl Record.take o.record := by
  induction h generalizing o with
  | nil => rfl
  | cons n h ih =>
    have hn : (o.take n).record = o.record.take n := by cases n <;> rfl
    rw [List.foldl_cons, ih, hn, List.foldl_cons]

theorem record_ofHistory (nested : Nested) (h : List Notice) :
    (ofHistory nested h).record = Record.ofHistory h := record_foldl_take h _

/-- The cases of an observer account for its history, and those that are there stay as they are
whatever it is told later. -/
theorem ofHistory_accounts (nested : Nested) (h : List Notice) :
    Record.Accounts h (ofHistory nested h).record.cases ∧
      ∀ more, (ofHistory nested h).record.cases <+:
        (ofHistory nested (h ++ more)).record.cases := by
  constructor
  · rw [record_ofHistory]
    exact (Record.ofHistory_recalls h).accounts
  · intro more
    have happend : Record.ofHistory (h ++ more) =
        more.foldl Record.take (Record.ofHistory h) := List.foldl_append
    rw [record_ofHistory, record_ofHistory, happend]
    exact Record.cases_foldl_prefix more (Record.ofHistory h)

end Observer

end StagedTests
