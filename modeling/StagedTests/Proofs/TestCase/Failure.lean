import StagedTests.Proofs.TestCase.Account

/-!
# Failures among the cases

While the test goes on, the cases of a record are those of the terminations that it was told of. So
the cases that are failures can be read off any list that shows these terminations once each.
-/

namespace StagedTests

structure FailedExit where
  container : String
  exitCode : Int
  reason : Option String
  message : Option String
  deriving DecidableEq

/-- What the test case of the container has put out. -/
def FailedExit.output (f : FailedExit) : String :=
  Record.failureText f.container f.exitCode f.reason f.message

namespace ContainerEvent

def failedExit? : ContainerEvent → Option FailedExit
  | .started _ _ _ => none
  | .terminated _ container _ _ exitCode reason message =>
    if exitCode = 0 then none else some ⟨container, exitCode, reason, message⟩

theorem container_of_failedExit? {e : ContainerEvent} {f : FailedExit}
    (h : e.failedExit? = some f) : e.container = f.container := by
  cases e with
  | started pod container startedAt => cases h
  | terminated pod container startedAt finishedAt exitCode reason message =>
    simp only [failedExit?, Option.ite_none_left_eq_some, Option.some_inj] at h
    rw [← h.2]
    rfl

end ContainerEvent

theorem containers_failedExits_nodup {ends : List ContainerEvent}
    (h : (ends.map (·.container)).Nodup) :
    ((ends.filterMap (·.failedExit?)).map (·.container)).Nodup :=
  nodup_map_filterMap (fun hf => (ContainerEvent.container_of_failedExit? hf).symm) h

namespace Record.Recalls

variable {h : List Notice} {r : Record} (hr : Recalls h r) (hgoing : ¬ CancelledIn h)
include hr hgoing

/-- While the test goes on, a case tells of the end of its container. -/
theorem case_of_going {x : TestCase} (hx : x ∈ r.cases) :
    ∃ e ∈ eventsIn h, e.isTerminal = true ∧ x.name = caseName e.container ∧
      x.failure = e.failedExit?.map FailedExit.output := by
  obtain ⟨c, before, n, after, rfl, hn⟩ := hr.closed x hx
  cases hn with
  | ended now pod startedAt finishedAt exitCode reason message first inTime =>
    refine ⟨.terminated pod c startedAt finishedAt exitCode reason message, ?_, rfl, rfl, ?_⟩
    · rw [eventsIn_append]
      exact List.mem_append_right _ List.mem_cons_self
    · by_cases hcode : exitCode = 0
      · simp [endedCase, ContainerEvent.failedExit?, hcode]
      · simp [endedCase, ContainerEvent.failedExit?, hcode, FailedExit.output]
  | stopped now start started running first =>
    exact absurd ⟨now, by simp⟩ hgoing
  | late now pod startedAt cancelled first =>
    exact absurd ((cancelledIn_append ..).mpr (.inl cancelled)) hgoing

section

variable {ends : List ContainerEvent}
  (hshown : ∀ e ∈ eventsIn h, e.isTerminal = true → e ∈ ends)
  (hended : ∀ e ∈ ends, EndedIn (eventsIn h) e.container)
  (hdistinct : (ends.map (·.container)).Nodup)
include hshown hended hdistinct

/-- A list that shows the end of each container once shows which cases there are. -/
theorem exists_case_of_end {e : ContainerEvent} (he : e ∈ ends) :
    ∃ x ∈ r.cases, x.name = caseName e.container ∧
      x.failure = e.failedExit?.map FailedExit.output := by
  obtain ⟨x, hx, hname⟩ := (hr.accounts.going hgoing e.container).mpr (hended e he)
  obtain ⟨e', he', hend, hname', hfailure⟩ := hr.case_of_going hgoing hx
  have hcontainer : e'.container = e.container := caseName_injective (hname'.symm.trans hname)
  obtain rfl : e' = e := List.inj_on_of_nodup_map hdistinct (hshown e' he' hend) he hcontainer
  exact ⟨x, hx, hname, hfailure⟩

/-- The cases that are failures are those of the containers that did not end well, with what these
have put out. -/
theorem failing_perm :
    ((r.cases.filter (·.isFailure)).map fun x => (x.name, x.failure)).Perm
      ((ends.filterMap (·.failedExit?)).map fun f => (caseName f.container, some f.output)) := by
  have hcases : ((r.cases.filter (·.isFailure)).map fun x => (x.name, x.failure)).Nodup := by
    have hnames : ((r.cases.filter (·.isFailure)).map (·.name)).Nodup :=
      hr.accounts.once.sublist (List.filter_sublist.map _)
    exact .of_map Prod.fst (by rwa [List.map_map])
  have hends : ((ends.filterMap (·.failedExit?)).map fun f =>
      (caseName f.container, some f.output)).Nodup := by
    have hnames := (containers_failedExits_nodup hdistinct).map caseName_injective
    exact .of_map Prod.fst (by rwa [List.map_map] at hnames ⊢)
  refine (List.perm_ext_iff_of_nodup hcases hends).mpr ?_
  rintro ⟨name, failure⟩
  simp only [List.mem_map, List.mem_filter, List.mem_filterMap, Prod.mk.injEq]
  constructor
  · rintro ⟨x, ⟨hx, hfails⟩, rfl, rfl⟩
    obtain ⟨e, he, hend, hname, hfailure⟩ := hr.case_of_going hgoing hx
    rw [TestCase.isFailure, hfailure, Option.isSome_map] at hfails
    obtain ⟨f, hf⟩ := Option.isSome_iff_exists.mp hfails
    refine ⟨f, ⟨e, hshown e he hend, hf⟩, ?_, ?_⟩
    · rw [hname, ContainerEvent.container_of_failedExit? hf]
    · rw [hfailure, hf, Option.map_some]
  · rintro ⟨f, ⟨e, he, hf⟩, rfl, rfl⟩
    obtain ⟨x, hx, hname, hfailure⟩ := hr.exists_case_of_end hgoing hshown hended hdistinct he
    rw [hf, Option.map_some] at hfailure
    refine ⟨x, ⟨hx, ?_⟩, ?_, hfailure⟩
    · rw [TestCase.isFailure, hfailure, Option.isSome_some]
    · rw [hname, ContainerEvent.container_of_failedExit? hf]

end

end Record.Recalls

end StagedTests
