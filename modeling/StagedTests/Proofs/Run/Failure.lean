import StagedTests.Proofs.Container.Lasting
import StagedTests.Proofs.Run.Course
import StagedTests.Proofs.Run.Recount
import StagedTests.Proofs.TestCase.Failure

/-!
# The report of a failure and the test cases

The description of a failed pod is made from the last look at it, the test cases from the events of
all looks. Where nobody cancels anything and the looks agree on how containers have ended, both tell
of the same containers: the lines of the description are about those whose cases are failures, and
the description is the pod's own if there is no such case.
-/

namespace StagedTests

variable {σ : Type}

/-! ## The description of a failure -/

namespace FailedExit

/-- What the description of a failed pod says of a container before its message. -/
def heading (f : FailedExit) : String :=
  let reason := f.reason.getD "Error"
  s!"container {Text.quoted f.container} exited with code {f.exitCode}, reason {reason}"

def line (f : FailedExit) : String :=
  let message := Text.trim (f.message.getD "")
  if message = "" then f.heading else f.heading ++ ": " ++ message

theorem head?_heading (f : FailedExit) : f.heading.toList.head? = some 'c' := by
  simp [heading, toString]

theorem head?_line (f : FailedExit) : f.line.toList.head? = some 'c' := by
  simp only [line]
  split
  · exact f.head?_heading
  · simp [f.head?_heading]

end FailedExit

def ContainerStatus.failedExit? (s : ContainerStatus) : Option FailedExit :=
  (s.state.bind (·.terminated)).bind fun t =>
    if t.exitCode = 0 then none else some ⟨s.name, t.exitCode, t.reason, t.message⟩

namespace Pod

def failedExits (pod : Pod) : List FailedExit :=
  pod.containerStatuses.filterMap (·.failedExit?)

/-- What the pod says of its failure: its message, else its reason, else that it failed. -/
def ownDescription (pod : Pod) : String :=
  match pod.status.bind fun s => s.message.or s.reason with
  | some message => s!"the pod failed: {message}"
  | none => "the pod failed"

theorem failedExits_eq (pod : Pod) (name : String) :
    pod.failedExits = (pod.endsAt name).filterMap (·.failedExit?) := by
  rw [failedExits, endsAt, List.filterMap_filterMap]
  refine List.filterMap_congr fun s _ => ?_
  unfold ContainerStatus.failedExit? ContainerStatus.end?
  cases s.state.bind (·.terminated) <;> rfl

theorem head?_ownDescription (pod : Pod) : pod.ownDescription.toList.head? = some 't' := by
  unfold ownDescription
  split <;> simp [toString]

end Pod

theorem describeFailure_eq (pod : Pod) :
    describeFailure pod = if pod.failedExits = [] then pod.ownDescription
      else "\n".intercalate (pod.failedExits.map FailedExit.line) := by
  have hlines : pod.containerStatuses.filterMap StagedTests.failedExit? =
      pod.failedExits.map FailedExit.line := by
    rw [Pod.failedExits, List.map_filterMap]
    refine List.filterMap_congr fun s _ => ?_
    unfold StagedTests.failedExit? ContainerStatus.failedExit?
    cases s.state.bind (·.terminated) with
    | none => rfl
    | some t =>
      by_cases hcode : t.exitCode = 0 <;> simp [hcode, FailedExit.line, FailedExit.heading]
  unfold describeFailure
  rw [hlines]
  cases pod.failedExits with
  | nil => rfl
  | cons f rest => rfl

/-- Lines about containers never read like the pod's own description. -/
theorem intercalate_lines_ne (f : FailedExit) (rest : List FailedExit) (pod : Pod) :
    "\n".intercalate ((f :: rest).map FailedExit.line) ≠ pod.ownDescription := by
  have hlines : ("\n".intercalate ((f :: rest).map FailedExit.line)).toList.head? = some 'c' := by
    cases rest with
    | nil => simpa using f.head?_line
    | cons g rest => simp [String.intercalate_cons_cons, f.head?_line]
  intro h
  rw [h, pod.head?_ownDescription] at hlines
  exact absurd hlines (by decide)

/-! ## The polls of a run -/

def Heard.pod? : Heard → Option Pod
  | .found _ (.answered (.ok pod)) => some pod
  | _ => none

def Heard.isCreation : Heard → Bool
  | .created _ _ => true
  | _ => false

/-- The pods that are found behind the creation. -/
def polledIn (heard : List Heard) : List Pod :=
  (heard.dropWhile fun x => !x.isCreation).filterMap Heard.pod?

/-- What the looks at a pod find while it is run. -/
def Runner.polls (r : Runner) (env : Surroundings σ) (p : StepPod) (w : World σ) : List Pod :=
  polledIn (repliesIn (r.run env.traced p (w.traced [])).2.cluster.2)

theorem Clears.not_isCreation {name : String} {heard : List Heard} (h : Clears name heard) :
    ∀ x ∈ heard, (!x.isCreation) = true := by
  cases h with
  | vacant h => simp [Heard.isCreation]
  | gone left h =>
    intro x hx
    simp only [leaving, looksAt, List.mem_cons, List.mem_map] at hx
    rcases hx with rfl | ⟨answer, -, rfl⟩ <;> rfl

theorem polledIn_watched {p : StepPod} {heard : List Heard} (h : Clears p.name heard) (pod : Pod)
    (looks : List Pod) : polledIn (watched p heard pod (looks.map .ok)) = looks := by
  rw [polledIn, watched, List.dropWhile_append_of_pos h.not_isCreation,
    List.dropWhile_cons_of_neg (by simp [Heard.isCreation]), List.filterMap_cons_none rfl, looksAt,
    List.map_map, List.filterMap_map]
  exact List.filterMap_some

/-- A run that ends with the failure of its pod has taken a last look at it, which the failure
describes, and has delivered the events of all looks. -/
theorem Course.of_failed {r : Runner} {p : StepPod} {heard : List Heard}
    {events : List ContainerEvent} {result : Except ExecutionError Unit}
    (h : Course r p heard events result) {e : ExecutionError} (he : result = .error e)
    {text : String} (hfault : e.fault = .failed text) :
    ∃ looks last, polledIn heard = looks ++ [last] ∧ text = describeFailure last ∧
      events = eventsAt p.name (looks ++ [last]) := by
  cases h with
  | blocked h =>
    cases he
    cases hfault
  | refused h =>
    cases he
    cases hfault
  | @decided _ pod looks _ _ hclears hlooks hlast =>
    cases hlast with
    | gone | lost =>
      cases he
      cases hfault
    | succeeded => cases he
    | @failed last h =>
      cases he
      cases hfault
      refine ⟨looks, last, ?_, rfl, rfl⟩
      have hpolled := polledIn_watched hclears pod (looks ++ [last])
      rwa [List.map_append] at hpolled

/-! ## Agreement -/

/-- The description of a failure and the test cases tell of the same containers: the failed ones of
the last look, each with its exit code and its reason. The description is the pod's own exactly if
no case is a failure. -/
structure Concurs (last : Pod) (text : String) (cases : List TestCase) : Prop where
  described : text = if last.failedExits = [] then last.ownDescription
    else "\n".intercalate (last.failedExits.map FailedExit.line)
  failing : ((cases.filter (·.isFailure)).map fun x => (x.name, x.failure)).Perm
    (last.failedExits.map fun f => (Record.caseName f.container, some f.output))
  distinct : (last.failedExits.map (·.container)).Nodup
  own_iff : text = last.ownDescription ↔ ∀ x ∈ cases, x.isFailure = false

theorem Concurs.of_perm {last : Pod} {cases : List TestCase}
    (hfailing : ((cases.filter (·.isFailure)).map fun x => (x.name, x.failure)).Perm
      (last.failedExits.map fun f => (Record.caseName f.container, some f.output)))
    (hdistinct : (last.failedExits.map (·.container)).Nodup) :
    Concurs last (describeFailure last) cases where
  described := describeFailure_eq last
  failing := hfailing
  distinct := hdistinct
  own_iff := by
    have hnone : last.failedExits = [] ↔ ∀ x ∈ cases, x.isFailure = false := by
      have hlength := hfailing.length_eq
      rw [List.length_map, List.length_map] at hlength
      rw [← List.length_eq_zero_iff, ← hlength, List.length_eq_zero_iff, List.filter_eq_nil_iff]
      simp
    rw [describeFailure_eq, ← hnone]
    cases hexits : last.failedExits with
    | nil => simp
    | cons f rest => simpa using intercalate_lines_ne f rest last

namespace Rehearsal

/-- A pod of two containers, of which the first fails while the other one is still running. -/
def failing : Script where
  pods := Table.ofList [("e2e-probe",
    { polls :=
        [.status (some
          { phase := some "Running"
            containers := some [PodStore.endedStatus now 3 (some " no space\n") "probe",
              PodStore.runningStatus now "artifacts"] }),
        .status (some
          { phase := some "Failed"
            containers := some [PodStore.endedStatus now 3 (some " no space\n") "probe",
              PodStore.endedStatus now 0 none "artifacts"] })] })]

end Rehearsal

namespace Runner

variable (env : Surroundings σ) (r : Runner) (p : StepPod)

/-- A run that nobody cancels, and that ends with the failure of its pod, describes that failure as
its test cases do, if the looks at the pod agree on how containers have ended. -/
theorem run_concurs (hdry : r.dry = false) {w w' : World σ} (hidle : w.collecting = false)
    (hfresh : w.observer.record = .fresh) {e : ExecutionError}
    (h : r.run env p w = (.returned (.error e), w')) {text : String}
    (hfault : e.fault = .failed text) (htoken : w'.token.isCancelled = false)
    (hrecord : w'.observer.record.cancelled = false) (hlasting : Lasting p.name (r.polls env p w)) :
    ∃ looks last, r.polls env p w = looks ++ [last] ∧
      Concurs last text w'.observer.record.cases := by
  obtain ⟨sights, log, hrun, hjournal, hproceeds⟩ :=
    r.run_proceeds env p hdry w hidle (by rw [h]; exact htoken)
  rw [h] at hjournal hproceeds
  have hpolls : r.polls env p w = polledIn (repliesIn sights) := by
    rw [polls, hrun]
    rfl
  obtain ⟨looks, last, hpolled, rfl, hevents⟩ :=
    (hproceeds.settled _ rfl).of_failed rfl hfault
  rw [hpolls, hpolled] at hlasting ⊢
  -- the record was told what the journal shows delivered, which is what all looks tell
  obtain ⟨log', told, hjournal', htold, hcases⟩ := r.run_recounts env p hfresh
  rw [h] at hjournal' hcases
  obtain rfl : log' = log := List.append_cancel_left (hjournal'.symm.trans hjournal)
  rw [hevents] at htold
  have hrecalls : Record.Recalls told w'.observer.record := by
    rw [hcases]
    exact Record.ofHistory_recalls told
  have hgoing : ¬ CancelledIn told := by
    rw [← hrecalls.cancelled_iff, hrecord]
    exact Bool.false_ne_true
  have hdistinct : ((last.endsAt p.name).map (·.container)).Nodup :=
    containers_endsAt_nodup (hlasting.distinct last (List.mem_append_right _ List.mem_cons_self))
  have hexits := last.failedExits_eq p.name
  refine ⟨looks, last, rfl, .of_perm ?_ ?_⟩
  · rw [hexits]
    refine hrecalls.failing_perm hgoing (fun e he hend => ?_) (fun e he => ?_) hdistinct
    · rw [← htold] at he
      exact hlasting.mem_endsAt_of_reported he hend
    · rw [← htold]
      exact endedIn_of_mem_endsAt he
  · rw [hexits]
    exact containers_failedExits_nodup hdistinct

open Rehearsal (failing probe probeRunner)

def beforeFailing : World Script := .start failing .fresh .empty

theorem run_concurs_failing : ∃ e w' text looks last,
    probeRunner.run (Script.surroundings Rehearsal.now) probe beforeFailing =
      (.returned (.error e), w') ∧
    e.fault = .failed text ∧
    text = "container \"probe\" exited with code 3, reason Error: no space" ∧
    probeRunner.polls (Script.surroundings Rehearsal.now) probe beforeFailing = looks ++ [last] ∧
    Concurs last text w'.observer.record.cases := by
  obtain ⟨result, w', h⟩ := (Task.isReturned_iff
    (probeRunner.run (Script.surroundings Rehearsal.now) probe) beforeFailing).mp
      (by decide +kernel)
  have hw' : w' = (probeRunner.run (Script.surroundings Rehearsal.now) probe beforeFailing).2 := by
    rw [h]
  have hresult : some result =
      some (.error (probeRunner.error probe
        (.failed "container \"probe\" exited with code 3, reason Error: no space"))) := by
    have hvalue : (probeRunner.run (Script.surroundings Rehearsal.now) probe
        beforeFailing).1.value? = some result := by rw [h]; rfl
    rw [← hvalue]
    decide +kernel
  obtain rfl := Option.some.inj hresult
  obtain ⟨looks, last, hpolls, hconcurs⟩ :=
    run_concurs (Script.surroundings Rehearsal.now) probeRunner probe rfl (w := beforeFailing)
      rfl rfl h rfl (by rw [hw']; decide +kernel) (by rw [hw']; decide +kernel) (by decide +kernel)
  exact ⟨_, w', _, looks, last, h, rfl, rfl, hpolls, hconcurs⟩

end Runner

end StagedTests
