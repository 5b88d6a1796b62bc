import StagedTests.Proofs.Pod.Synthesis
import StagedTests.Proofs.Run.Preparation

/-!
# From attempts to tests

A test is put together from the attempts of its phases. What each attempt keeps, and what the scopes
of phases keep, is kept by a phase; with what the preparation keeps it is kept by the test.
-/

namespace StagedTests

variable {σ : Type} {env : Surroundings σ} {I : World σ → Prop}

open StagedTests.Task (Keeps Leads Meets)

namespace Runner

variable (r : Runner)

theorem attempt_keeps_of_run {p : StepPod} (hrun : Keeps I (r.run env p))
    (hbegan : ∀ w, I w → I (World.note { w with observer := r.observerFor p } (.began p)))
    (hfinished : ∀ result w, I w → I (w.note (.finished p result))) (text : String) :
    Keeps I (r.attempt env text p) := by
  refine .bind (.change hbegan) fun _ => .bind hrun fun result => ?_
  exact .bind (.change (hfinished result)) fun _ => .bind (.look _) fun _ => .done _

theorem attempt_keeps {A : Call → Prop} (h : KeptByRuns env A I)
    (hbegan : ∀ p w, I w → I (World.note { w with observer := r.observerFor p } (.began p)))
    (hfinished : ∀ p result w, I w → I (w.note (.finished p result))) {p : StepPod}
    (hp : p.Within A) (text : String) : Keeps I (r.attempt env text p) :=
  r.attempt_keeps_of_run (h.run r hp) (hbegan p) (hfinished p) text

theorem runAll_meets {R : World σ → Prop} (policy : Policy) (description : String)
    {pods : List StepPod}
    (h : ∀ p ∈ pods, ∀ text, Meets I (r.attempt env text p) (fun _ => I) R) :
    Meets I (r.runAll env policy description pods) (fun _ => I) R := by
  induction pods with
  | nil => exact .done fun _ hw => hw
  | cons p rest ih =>
    obtain ⟨hp, hrest⟩ := List.forall_mem_cons.mp h
    have hmore := ih hrest
    refine .bind (hp _) fun x => ?_
    rcases x with ⟨result, cases⟩
    cases result with
    | ok _ => exact .bind hmore fun _ => .done fun _ hw => hw
    | error e =>
      dsimp only
      split
      · exact .done fun _ hw => hw
      · exact .bind hmore fun _ => .done fun _ hw => hw

theorem runAll_keeps (policy : Policy) (description : String) {pods : List StepPod}
    (h : ∀ p ∈ pods, ∀ text, Keeps I (r.attempt env text p)) :
    Keeps I (r.runAll env policy description pods) :=
  (r.runAll_meets policy description fun p hp text => .ofKeeps (h p hp text)).keeps

theorem runAll_leads (policy : Policy) (description : String) {pods : List StepPod}
    (h : ∀ p ∈ pods, ∀ text, Leads I (r.attempt env text p) fun _ => I) :
    Leads I (r.runAll env policy description pods) fun _ => I :=
  (r.runAll_meets policy description fun p hp text => (h p hp text).meets).leads

theorem runPods_keeps (hscopes : KeptByScopes env I) (policy : Policy) (description : String)
    {pods : List StepPod} (h : ∀ p ∈ pods, ∀ text, Keeps I (r.attempt env text p)) :
    Keeps I (r.runPods env policy description pods) := by
  have hall := r.runAll_keeps policy description h
  unfold runPods
  split
  · exact hall
  · exact .bind (.change (hscopes.opened _)) fun _ => .bind hall fun _ =>
      .bind (hscopes.closeScope _) fun _ => .done _

theorem runPhase_keeps_of_pods (s : Synthesizer) (description : String) (phase : Phase)
    (steps : List Step) (h : ∀ pods, s.generatePods steps = .ok pods →
      Keeps I (r.runPods env (Policy.ofPhase phase) description pods)) :
    Keeps I (r.runPhase env s description phase steps) := by
  unfold runPhase
  cases hpods : s.generatePods steps with
  | error errors => exact .done _
  | ok pods =>
    cases pods with
    | nil => exact .done _
    | cons p rest => exact .bind (h _ hpods) fun _ => .done _

theorem runPhase_keeps (hscopes : KeptByScopes env I) (s : Synthesizer) (description : String)
    (phase : Phase) (steps : List Step)
    (h : ∀ step ∈ steps, ∀ p, s.generatePod step = .ok p →
      ∀ text, Keeps I (r.attempt env text p)) :
    Keeps I (r.runPhase env s description phase steps) := by
  refine r.runPhase_keeps_of_pods s description phase steps fun pods hpods => ?_
  refine r.runPods_keeps hscopes _ _ fun p hp => ?_
  obtain ⟨step, hstep, hmade⟩ := (s.makes_of_generatePods hpods).exists_step p hp
  exact h step hstep p hmade

end Runner

namespace StagedTest

variable (t : StagedTest)

/-- The phases as one sequence of tasks. -/
theorem runPhases_eq (env : Surroundings σ) (profile : Option ProfileSetting) :
    t.runPhases env profile =
    t.runPhase env profile .pre >>= fun setup =>
    (if setup.errors.isEmpty then t.runPhase env profile .test else pure ⟨[], []⟩) >>= fun tested =>
    t.runPhase env profile .post >>= fun cleaned =>
    pure ⟨runPhases.gather (if setup.errors.isEmpty then tested.errors else setup.errors) ++
      runPhases.gather cleaned.errors, setup.cases ++ tested.cases ++ cleaned.cases⟩ := by
  unfold runPhases
  refine congrArg (t.runPhase env profile .pre >>= ·) (funext fun setup => ?_)
  dsimp only
  split <;> rfl

theorem runPhases_meets {R : World σ → Prop} (profile : Option ProfileSetting)
    (h : ∀ phase, Meets I (t.runPhase env profile phase) (fun _ => I) R) :
    Meets I (t.runPhases env profile) (fun _ => I) R := by
  rw [runPhases_eq]
  refine .bind (h .pre) fun setup => .bind ?_ fun _ => .bind (h .post) fun _ => .done fun _ hw => hw
  split
  · exact h .test
  · exact .done fun _ hw => hw

theorem runPhases_keeps (hscopes : KeptByScopes env I) (profile : Option ProfileSetting)
    (h : ∀ step ∈ t.definition.allSteps, ∀ p, (t.synthesizer profile).generatePod step = .ok p →
      ∀ text, Keeps I (t.runner.attempt env text p)) :
    Keeps I (t.runPhases env profile) := by
  refine (t.runPhases_meets profile fun phase => .ofKeeps ?_).keeps
  refine t.runner.runPhase_keeps hscopes _ _ phase _ fun step hstep => h step ?_
  rw [Definition.allSteps]
  cases phase <;> simp_all [Definition.steps]

theorem run_meets {params : Parameters σ} {P R : World σ → Prop}
    (hprepare : Meets P (t.prepare env params) (fun _ => I) R)
    (hphases : ∀ profile, Meets I (t.runPhases env profile) (fun _ => I) R) :
    Meets P (t.run env params) (fun _ => I) R := by
  have hinvoke : Meets P (t.invoke env params) (fun _ => I) R := by
    refine .bind hprepare fun prepared => ?_
    cases prepared with
    | error e => exact .done fun _ hw => hw
    | ok profile => exact .bind (hphases profile) fun _ => .done fun _ hw => hw
  exact .bind hinvoke fun _ => .done fun _ hw => hw

theorem run_keeps {params : Parameters σ} (hprepare : Keeps I (t.prepare env params))
    (hphases : ∀ profile, Keeps I (t.runPhases env profile)) : Keeps I (t.run env params) :=
  (t.run_meets (.ofKeeps hprepare) fun profile => .ofKeeps (hphases profile)).keeps

end StagedTest

end StagedTests
