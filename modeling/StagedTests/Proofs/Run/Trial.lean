import StagedTests.Proofs.Run.Log
import StagedTests.Proofs.Run.Recount
import StagedTests.Proofs.Run.Test

/-!
# The cases of a test

A trial is an attempt together with the record that it left. A run of a test makes trials one after
the other, each with a fresh observer, and between them nothing is attempted. Its cases are those of
all records of these trials, in the order of the trials, under names that tell the test and the pod.
What the test held before the run is gone.
-/

namespace StagedTests

variable {σ : Type}

open StagedTests.Task (Keeps)

/-- One run of a pod, and the record that it left. -/
structure Trial extends Attempt where
  record : Record

def Trial.cases (description : String) (a : Trial) : List TestCase :=
  a.record.subtests (Runner.caseText description a.pod)

def Unmarked (log : List Entry) : Prop := ∀ e ∈ log, e.isMark = false

theorem unmarked_nil : Unmarked [] := fun _ h => nomatch h

theorem Unmarked.append {l m : List Entry} (hl : Unmarked l) (hm : Unmarked m) :
    Unmarked (l ++ m) := fun e he => (List.mem_append.mp he).elim (hl e) (hm e)

theorem Unmarked.filter_eq_nil {log : List Entry} (h : Unmarked log) :
    log.filter Entry.isMark = [] :=
  List.filter_eq_nil_iff.mpr fun e he => by simp [h e he]

theorem unmarked_grows : Grows (fun e => e.isMark = false) Unmarked := by
  intro log e he hlog
  exact hlog.append fun x hx => by rwa [List.mem_singleton.mp hx]

theorem admits_unmarked : Admits (fun e => e.isMark = false) Call.Any where
  aside := fun e he => by cases e <;> first | rfl | cases he
  commands := fun _ _ _ => trivial
  called := fun _ _ => rfl
  answered := fun _ _ _ => rfl
  delivered := fun _ => rfl
  scope := fun e he => by cases e <;> first | rfl | cases he
  recorded := fun _ _ _ => rfl

def World.Idles (w w' : World σ) : Prop := ∃ log, w'.journal = w.journal ++ log ∧ Unmarked log

namespace World.Idles

variable {w w₁ w' : World σ}

theorem refl (w : World σ) : w.Idles w := ⟨[], (List.append_nil _).symm, unmarked_nil⟩

theorem trans (h : w.Idles w₁) (h' : w₁.Idles w') : w.Idles w' := by
  obtain ⟨log, hjournal, hlog⟩ := h
  obtain ⟨log', hjournal', hlog'⟩ := h'
  exact ⟨log ++ log', by rw [hjournal', hjournal, List.append_assoc], hlog.append hlog'⟩

theorem of_along (h : w.Along Unmarked w') : w.Idles w' := by
  obtain ⟨log, hjournal, -, hlog⟩ := h
  exact ⟨log, hjournal, hlog⟩

theorem of_keeps {α : Type} {t : Task σ α} (h : Keeps (w.Along Unmarked) t) {o : Outcome α}
    (ht : t w = (o, w')) : w.Idles w' :=
  of_along (h.returned (World.Along.start w unmarked_nil) ht)

end World.Idles

/-- The world in which the run of a pod begins: with an observer of its own. -/
def Runner.begun (r : Runner) (p : StepPod) (w : World σ) : World σ :=
  World.note { w with observer := r.observerFor p } (.began p)

/-- From `w` to `w'` the trials were made one after the other: each is the run of its pod with a
fresh observer, and its record is what that observer holds at the end. Nothing is attempted in
between. -/
inductive Tried (env : Surroundings σ) (r : Runner) : World σ → List Trial → World σ → Prop
  | nothing {w w' : World σ} (h : w.Idles w') : Tried env r w [] w'
  | trial {w w₁ w₂ w' : World σ} {p : StepPod} {result : Except ExecutionError Unit}
    {rest : List Trial} (h : w.Idles w₁)
    (hrun : r.run env p (r.begun p w₁) = (.returned result, w₂))
    (hrest : Tried env r (w₂.note (.finished p result)) rest w') :
    Tried env r w (⟨⟨p, result⟩, w₂.observer.record⟩ :: rest) w'

/-- In this part of a journal the trials were made and nothing else was attempted. The events that
were delivered in a trial are those that its record was told of. -/
inductive Logs : List Entry → List Trial → Prop
  | nothing {log : List Entry} (h : Unmarked log) : Logs log []
  | trial {a : Trial} {rest : List Trial} (before during after : List Entry) (told : List Notice)
    (hbefore : Unmarked before) (hduring : Unmarked during)
    (hrecord : a.record = Record.ofHistory told) (hevents : deliveredIn during = eventsIn told)
    (hrest : Logs after rest) :
    Logs (before ++ .began a.pod :: (during ++ .finished a.pod a.result :: after)) (a :: rest)

theorem Logs.marks {log : List Entry} {trials : List Trial} (h : Logs log trials) :
    log.filter Entry.isMark = trials.flatMap fun a => a.toAttempt.marks := by
  induction h with
  | nothing h => exact h.filter_eq_nil
  | trial before during after told hbefore hduring hrecord hevents hrest ih =>
    rw [List.filter_append, hbefore.filter_eq_nil, List.nil_append,
      List.filter_cons_of_pos rfl, List.filter_append, hduring.filter_eq_nil, List.nil_append,
      List.filter_cons_of_pos rfl, ih]
    rfl

namespace Tried

variable {env : Surroundings σ} {r : Runner} {w w₁ w' : World σ} {as bs : List Trial}

theorem idles (h : w.Idles w₁) (h' : Tried env r w₁ as w') : Tried env r w as w' := by
  cases h' with
  | nothing h' => exact .nothing (h.trans h')
  | trial h' hrun hrest => exact .trial (h.trans h') hrun hrest

theorem append (h : Tried env r w as w₁) (h' : Tried env r w₁ bs w') :
    Tried env r w (as ++ bs) w' := by
  induction h with
  | nothing h => exact idles h h'
  | trial h hrun _ ih => exact .trial h hrun (ih h')

/-- The run of a pod that is not created leaves its record as it was. -/
theorem record_of_dry (hdry : r.dry = true) (h : Tried env r w as w') :
    ∀ a ∈ as, a.record = .fresh := by
  induction h with
  | nothing h => exact fun _ h => nomatch h
  | @trial _ w₁ w₂ _ p result _ h hrun hrest ih =>
    refine List.forall_mem_cons.mpr ⟨?_, ih⟩
    have hrecorded : r.run env p (r.begun p w₁) =
        (.returned (.ok ()), (r.begun p w₁).note (.recorded "Pod" p.name p.pod.toJson.sorted)) := by
      unfold Runner.run
      rw [if_pos hdry]
      rfl
    rw [hrecorded] at hrun
    cases hrun
    rfl

/-- The run of a pod attempts nothing by itself. -/
theorem idles_run (env : Surroundings σ) (r : Runner) (p : StepPod) {o : Outcome _}
    (hrun : r.run env p w = (o, w')) : w.Idles w' :=
  .of_keeps ((keptByRuns_along env w unmarked_grows admits_unmarked).run r p.within_any) hrun

theorem logs (h : Tried env r w as w') : ∃ log, w'.journal = w.journal ++ log ∧ Logs log as := by
  induction h with
  | nothing h =>
    obtain ⟨log, hjournal, hlog⟩ := h
    exact ⟨log, hjournal, .nothing hlog⟩
  | @trial w w₁ w₂ w' p result rest h hrun hrest ih =>
    obtain ⟨before, hbefore, hunmarked⟩ := h
    -- what the run has added to the journal is both free of attempts and what its record was told
    obtain ⟨during, hduring, hquiet⟩ := idles_run env r p hrun
    obtain ⟨log, told, hjournal, hevents, hrecord⟩ := r.run_recounts env p (w := r.begun p w₁) rfl
    rw [hrun] at hjournal hrecord
    obtain rfl : log = during := List.append_cancel_left (hjournal.symm.trans hduring)
    obtain ⟨after, hafter, hlogs⟩ := ih
    refine ⟨_, ?_, .trial before log after told hunmarked hquiet hrecord hevents hlogs⟩
    rw [hafter, World.note, hduring, Runner.begun, World.note, hbefore]
    simp

end Tried

/-! ## The trials of a run -/

namespace Runner

variable (r : Runner) (env : Surroundings σ)

theorem attempt_tried {text : String} {p : StepPod} {w w' : World σ}
    {result : Except ExecutionError Unit} {cases : List TestCase}
    (h : r.attempt env text p w = (.returned (result, cases), w')) :
    ∃ record, Tried env r w [⟨⟨p, result⟩, record⟩] w' ∧ cases = record.subtests text := by
  obtain ⟨_, _, hbegun, h⟩ := Task.bind_eq_returned h
  cases hbegun
  obtain ⟨_, w₂, hrun, h⟩ := Task.bind_eq_returned h
  obtain ⟨_, _, hnoted, h⟩ := Task.bind_eq_returned h
  cases hnoted
  obtain ⟨_, _, hlooked, h⟩ := Task.bind_eq_returned h
  cases hlooked
  cases h
  exact ⟨w₂.observer.record, .trial (.refl w) hrun (.nothing (.refl _)), rfl⟩

theorem runAll_tried (policy : Policy) (description : String) (pods : List StepPod) :
    ∀ {w w' : World σ} {errors : List ExecutionError} {cases : List TestCase},
      r.runAll env policy description pods w = (.returned (errors, cases), w') →
      ∃ trials, Tried env r w trials w' ∧ cases = trials.flatMap (Trial.cases description) := by
  induction pods with
  | nil =>
    intro w w' errors cases h
    cases h
    exact ⟨[], .nothing (.refl w), rfl⟩
  | cons p rest ih =>
    intro w w' errors cases h
    obtain ⟨⟨result, first⟩, w₁, hattempt, h⟩ := Task.bind_eq_returned h
    obtain ⟨record, htried, rfl⟩ := r.attempt_tried env hattempt
    -- the rest is run unless the phase ends here
    have hrest : ∀ {f : List ExecutionError × List TestCase → List ExecutionError × List TestCase},
        (∀ x, (f x).2 = record.subtests (caseText description p) ++ x.2) →
        (r.runAll env policy description rest >>= fun x => pure (f x)) w₁ =
          (.returned (errors, cases), w') →
        ∃ trials, Tried env r w trials w' ∧ cases = trials.flatMap (Trial.cases description) := by
      intro f hf h
      obtain ⟨⟨more, others⟩, w₂, hmore, h⟩ := Task.bind_eq_returned h
      obtain ⟨trials, htrials, rfl⟩ := ih hmore
      obtain ⟨hout, rfl⟩ := Prod.mk.inj h
      have hcases := congrArg Prod.snd (Outcome.returned.inj hout)
      rw [hf] at hcases
      exact ⟨_ :: trials, htried.append htrials, hcases.symm⟩
    cases result with
    | ok _ => exact hrest (fun _ => rfl) h
    | error e =>
      dsimp only at h
      split at h
      · cases h
        exact ⟨_, htried, (List.append_nil _).symm⟩
      · exact hrest (fun _ => rfl) h

theorem idles_openScope (reaction : Reaction) {w w' : World σ} {o : Outcome Unit}
    (h : Task.openScope reaction w = (o, w')) : w.Idles w' := by
  cases h
  exact ⟨[.opened reaction], rfl, fun e he => by rw [List.mem_singleton.mp he]; rfl⟩

theorem idles_closeScope (reaction : Reaction) {w w' : World σ} {o : Outcome Unit}
    (h : Task.closeScope env reaction w = (o, w')) : w.Idles w' :=
  .of_keeps ((keptByScopes_along env w unmarked_grows admits_unmarked.aside
    admits_unmarked.scope).closeScope reaction) h

theorem runPods_tried (policy : Policy) (description : String) (pods : List StepPod)
    {w w' : World σ} {errors : List ExecutionError} {cases : List TestCase}
    (h : r.runPods env policy description pods w = (.returned (errors, cases), w')) :
    ∃ trials, Tried env r w trials w' ∧ cases = trials.flatMap (Trial.cases description) := by
  unfold runPods at h
  split at h
  · exact r.runAll_tried env policy description pods h
  · obtain ⟨_, w₁, hopened, h⟩ := Task.bind_eq_returned h
    obtain ⟨out, w₂, hall, h⟩ := Task.bind_eq_returned h
    obtain ⟨_, w₃, hclosed, h⟩ := Task.bind_eq_returned h
    cases h
    obtain ⟨trials, htried, hcases⟩ := r.runAll_tried env policy description pods hall
    refine ⟨trials, ?_, hcases⟩
    have hended := htried.append (.nothing (idles_closeScope env _ hclosed))
    rw [List.append_nil] at hended
    exact hended.idles (idles_openScope _ hopened)

theorem runPhase_tried (s : Synthesizer) (description : String) (phase : Phase) (steps : List Step)
    {w w' : World σ} {report : PhaseReport}
    (h : r.runPhase env s description phase steps w = (.returned report, w')) :
    ∃ trials, Tried env r w trials w' ∧
      report.cases = trials.flatMap (Trial.cases description) := by
  unfold runPhase at h
  cases hpods : s.generatePods steps with
  | error errors =>
    rw [hpods] at h
    cases h
    exact ⟨[], .nothing (.refl w), rfl⟩
  | ok pods =>
    rw [hpods] at h
    cases pods with
    | nil =>
      cases h
      exact ⟨[], .nothing (.refl w), rfl⟩
    | cons p rest =>
      obtain ⟨⟨errors, cases⟩, w₁, hran, h⟩ := Task.bind_eq_returned h
      cases h
      exact r.runPods_tried env _ description _ hran

end Runner

namespace StagedTest

variable (t : StagedTest) (env : Surroundings σ) (params : Parameters σ)

theorem runPhases_tried (profile : Option ProfileSetting) {w w' : World σ} {report : PhaseReport}
    (h : t.runPhases env profile w = (.returned report, w')) :
    ∃ trials, Tried env t.runner w trials w' ∧
      report.cases = trials.flatMap (Trial.cases t.description) := by
  rw [runPhases_eq] at h
  obtain ⟨setup, w₁, hsetup, h⟩ := Task.bind_eq_returned h
  obtain ⟨tested, w₂, htested, h⟩ := Task.bind_eq_returned h
  obtain ⟨cleaned, w₃, hcleaned, h⟩ := Task.bind_eq_returned h
  cases h
  obtain ⟨pre, hpre, hprecases⟩ := t.runner.runPhase_tried env _ _ _ _ hsetup
  obtain ⟨post, hpost, hpostcases⟩ := t.runner.runPhase_tried env _ _ _ _ hcleaned
  have htest : ∃ test, Tried env t.runner w₁ test w₂ ∧
      tested.cases = test.flatMap (Trial.cases t.description) := by
    split at htested
    · exact t.runner.runPhase_tried env _ _ _ _ htested
    · cases htested
      exact ⟨[], .nothing (.refl _), rfl⟩
  obtain ⟨test, htest, htestcases⟩ := htest
  refine ⟨pre ++ test ++ post, (hpre.append htest).append hpost, ?_⟩
  rw [List.flatMap_append, List.flatMap_append, ← hprecases, ← htestcases, ← hpostcases]

theorem idles_prepare {w w' : World σ} {o : Outcome (Except TestError (Option ProfileSetting))}
    (h : t.prepare env params w = (o, w')) : w.Idles w' :=
  .of_keeps ((keptByPreparation_along env w unmarked_grows params admits_unmarked.aside
    (fun _ _ => ⟨rfl, fun _ => rfl⟩) (fun _ => rfl) fun _ _ _ => rfl).prepare t) h

theorem run_tried {w w' : World σ} {result : Except TestError Unit} {t' : StagedTest}
    (h : t.run env params w = (.returned (result, t'), w')) :
    ∃ trials, Tried env t.runner w trials w' ∧
      t'.subtests = trials.flatMap (Trial.cases t.description) := by
  rcases hprepare : t.prepare env params w with ⟨outcome, w₁⟩
  have hidles := t.idles_prepare env params hprepare
  cases outcome with
  | returned prepared =>
    cases prepared with
    | error e =>
      rw [t.run_of_refused env params hprepare] at h
      cases h
      exact ⟨[], .nothing hidles, rfl⟩
    | ok profile =>
      rw [t.run_of_prepare env params profile hprepare] at h
      obtain ⟨report, w₂, hphases, h⟩ := Task.bind_eq_returned h
      cases h
      obtain ⟨trials, htried, hcases⟩ := t.runPhases_tried env profile hphases
      exact ⟨trials, htried.idles hidles, hcases⟩
  | dropped | abandoned | stalled =>
    have hnot := (t.run_of_unprepared env params (w := w) (by rw [hprepare]; rfl)).1
    rw [h] at hnot
    cases hnot

/-- What the cases of a test are behind a run that has made some trials: these are all that the run
has attempted, and the cases are those of their records. -/
structure Recorded (trials : List Trial) (w w' : World σ) (t' : StagedTest) : Prop where
  tried : Tried env t.runner w trials w'
  attempted : w'.marks = w.marks ++ trials.flatMap fun a => a.toAttempt.marks
  logged : ∃ log, w'.journal = w.journal ++ log ∧ Logs log trials
  subtests_eq : t'.subtests = trials.flatMap fun a => a.record.cases.map fun c =>
    { c with name := s!"Run multi-stage test {t.name} - {a.pod.name} " ++ c.name }
  dry : t.dry = true → t'.subtests = []

/-- Whatever a test held before it was run and whatever the run returns, its cases are then those of
the trials that this run has made. -/
theorem run_recorded {w w' : World σ} {result : Except TestError Unit} {t' : StagedTest}
    (h : t.run env params w = (.returned (result, t'), w')) :
    ∃ trials, t.Recorded env trials w w' t' := by
  obtain ⟨trials, htried, hcases⟩ := t.run_tried env params h
  obtain ⟨log, hjournal, hlogs⟩ := htried.logs
  refine ⟨trials, htried, ?_, ⟨log, hjournal, hlogs⟩, hcases, fun hdry => ?_⟩
  · rw [World.marks, World.shown, hjournal, List.filter_append, hlogs.marks]
    rfl
  · rw [hcases, List.flatMap_eq_nil_iff]
    intro a ha
    rw [Trial.cases, htried.record_of_dry hdry a ha]
    rfl

theorem run_recorded_threeSteps : ∃ result t' w' trials,
    Rehearsal.threeSteps.run Rehearsed.surroundings Rehearsal.noParameters
        Rehearsal.failingCluster = (.returned (result, t'), w') ∧
      Rehearsal.threeSteps.Recorded Rehearsed.surroundings trials Rehearsal.failingCluster w' t' ∧
      t'.subtests.length = 3 := by
  have hreturned : (Rehearsal.threeSteps.run Rehearsed.surroundings Rehearsal.noParameters
      Rehearsal.failingCluster).1.isReturned = true := by decide +kernel
  obtain ⟨⟨result, t'⟩, w', hrun⟩ := (Task.isReturned_iff _ _).mp hreturned
  have hcases : ((Rehearsal.threeSteps.run Rehearsed.surroundings Rehearsal.noParameters
      Rehearsal.failingCluster).1.value?.map fun x => x.2.subtests.length) = some 3 := by
    decide +kernel
  rw [hrun] at hcases
  obtain ⟨trials, htrials⟩ :=
    run_recorded Rehearsal.threeSteps Rehearsed.surroundings Rehearsal.noParameters hrun
  exact ⟨result, t', w', trials, hrun, htrials, Option.some.inj hcases⟩

end StagedTest

end StagedTests
