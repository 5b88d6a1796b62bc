import StagedTests.Proofs.Run.Secret

/-!
# What a run comes to if all goes well

Where the secret of the profile is there, what a run asks the source of the parameters settles its
configuration, and with it the pods of all phases and the steps that have none. If every attempt
ends well, these pods are run in their order and nothing but those steps is blamed.
-/

namespace StagedTests

variable {σ : Type}

open StagedTests.Task (Meets Returns)

def StepPod.object (p : StepPod) : RecordedObject := ⟨"Pod", p.name, p.pod.toJson.sorted⟩

namespace StagedTest

variable (t : StagedTest) (env : Surroundings σ) (params : Parameters σ)

/-- The cluster has the secret of the profile, if one is set, when a run from `w` asks for it. -/
def Finds (w : World σ) : Prop :=
  t.definition.profile ≠ none → ∃ secret w₁,
    Task.call env (.getSecret (profileSecretName t.name))
      (env.secrets.get (profileSecretName t.name)) w = (.returned (.ok secret), w₁)

/-- What a run from `w` is answered when it asks for the release images. The second is not asked for
where the first one is not known. -/
def answers (w : World σ) : Except ParameterError String × Except ParameterError String :=
  let s := t.lookedState env w
  match (params.get initialReleaseParameter s).1 with
  | .error e => (.error e, .error e)
  | .ok initial =>
    (.ok initial, (params.get latestReleaseParameter (params.get initialReleaseParameter s).2).1)

def setting (answers : Except ParameterError String × Except ParameterError String) :
    Except ConfigurationError (Option ProfileSetting) :=
  match t.definition.profile with
  | none => .ok none
  | some profile =>
    match answers with
    | (.error e, _) => .error (.unresolvedParameter initialReleaseParameter e.message)
    | (.ok _, .error e) => .error (.unresolvedParameter latestReleaseParameter e.message)
    | (.ok initial, .ok latest) => .ok (some ⟨profile, initial, latest⟩)

variable {env params} in
theorem resolveProfile_returns {w : World σ} {J : World σ → Prop} (hfinds : t.Finds env w)
    (hunset : t.definition.profile = none → J w)
    (hlooked : t.definition.profile ≠ none → ∀ answer w₁, Task.call env
      (.getSecret (profileSecretName t.name)) (env.secrets.get (profileSecretName t.name)) w =
        (.returned answer, w₁) → J w₁)
    (hasked : ∀ name v, J v →
      J { v.note (.asked name) with cluster := (params.get name v.cluster).2 }) :
    Returns (fun v => v = w) (t.resolveProfile env params)
      fun x v => J v ∧ x = t.setting (t.answers env params w) := by
  unfold resolveProfile setting
  cases hprofile : t.definition.profile with
  | none =>
    refine .done ?_
    rintro v rfl
    exact ⟨hunset hprofile, rfl⟩
  | some profile =>
    have hset : t.definition.profile ≠ none := by simp [hprofile]
    have hlook : Returns (fun v => v = w)
        (Task.call env (.getSecret (profileSecretName t.name))
          (env.secrets.get (profileSecretName t.name)))
        fun answer v => (J v ∧ v.cluster = t.lookedState env w) ∧ ∃ secret, answer = .ok secret := by
      rintro v rfl
      obtain ⟨secret, w₁, hcalled⟩ := hfinds hset
      rw [hcalled]
      refine ⟨fun answer v' heq => ?_, fun hnot => ?_⟩
      · cases heq
        exact ⟨⟨hlooked hset _ _ hcalled, by rw [lookedState, hcalled]⟩, secret, rfl⟩
      · cases hnot
    refine .bind hlook fun answer => .known ?_
    rintro ⟨secret, rfl⟩
    refine .bind (resolve_meets params initialReleaseParameter _ (hasked _)) fun initial =>
      .known fun heq => ?_
    unfold answers
    cases hinitial : (params.get initialReleaseParameter (t.lookedState env w)).1 with
    | error e =>
      rw [hinitial] at heq
      subst heq
      exact .done fun v hv => ⟨hv.1, by simp [hinitial]⟩
    | ok value =>
      rw [hinitial] at heq
      subst heq
      refine .bind (resolve_meets params latestReleaseParameter _ (hasked _)) fun latest =>
        .known fun heq => ?_
      cases hlatest : (params.get latestReleaseParameter
          (params.get initialReleaseParameter (t.lookedState env w)).2).1 with
      | error e =>
        rw [hlatest] at heq
        subst heq
        exact .done fun v hv => ⟨hv.1, by simp [hinitial, hlatest]⟩
      | ok _ =>
        rw [hlatest] at heq
        subst heq
        exact .done fun v hv => ⟨hv.1, by simp [hinitial, hlatest]⟩

/-! ## The pods of a configuration -/

/-- The pods of a phase; none if a step has no pod. -/
def podsOf (profile : Option ProfileSetting) (phase : Phase) : List StepPod :=
  match (t.synthesizer profile).generatePods (t.definition.steps phase) with
  | .error _ => []
  | .ok pods => pods

def faultsOf (profile : Option ProfileSetting) (phase : Phase) : List TestError :=
  match (t.synthesizer profile).generatePods (t.definition.steps phase) with
  | .error errors => errors.map fun e => .inPhase t.name phase (.synthesis e)
  | .ok _ => []

/-- The pods of a run all of whose pods end well. -/
def plan (profile : Option ProfileSetting) : List StepPod :=
  t.podsOf profile .pre ++
    (if (t.faultsOf profile .pre).isEmpty then t.podsOf profile .test else []) ++
    t.podsOf profile .post

def plannedErrors (profile : Option ProfileSetting) : List TestError :=
  runPhases.gather (if (t.faultsOf profile .pre).isEmpty then t.faultsOf profile .test
    else t.faultsOf profile .pre) ++ runPhases.gather (t.faultsOf profile .post)

def planOf : Except ConfigurationError (Option ProfileSetting) → List StepPod
  | .error _ => []
  | .ok profile => t.plan profile

def outcomeOf : Except ConfigurationError (Option ProfileSetting) → Except TestError Unit
  | .error e => .error (.configuration e)
  | .ok profile => (TestError.resultOf (t.plannedErrors profile)).mapError .aggregate

def secretObject : RecordedObject := ⟨"Secret", t.name, t.resultsSecret.toJson.sorted⟩

def objectsOf : Except ConfigurationError (Option ProfileSetting) → DryRecord
  | .error _ => []
  | .ok profile => t.secretObject :: (t.plan profile).map StepPod.object

end StagedTest

/-! ## Runs of planned pods -/

section

variable {env : Surroundings σ} {I : List StepPod → World σ → Prop}

/-- Attempts that take the planned pods one after the other. -/
theorem Runner.runAll_returns (r : Runner)
    (h : ∀ p rest text, Returns (I (p :: rest)) (r.attempt env text p)
      fun x w => I rest w ∧ x.1 = .ok ())
    (policy : Policy) (description : String) (pods rest : List StepPod) :
    Returns (I (pods ++ rest)) (r.runAll env policy description pods)
      fun x w => I rest w ∧ x.1 = [] := by
  induction pods with
  | nil => exact .done fun _ hw => ⟨hw, rfl⟩
  | cons p pods ih =>
    refine .bind (h p (pods ++ rest) _) fun x => .known fun hok => ?_
    rcases x with ⟨result, cases⟩
    obtain rfl : result = .ok () := hok
    exact .bind ih fun y => .known fun hnil => .done fun _ hw => ⟨hw, hnil⟩

namespace StagedTest

variable (t : StagedTest)
  (h : ∀ policy description pods rest, Returns (I (pods ++ rest))
    (t.runner.runPods env policy description pods) fun x w => I rest w ∧ x.1 = [])
include h

theorem runPhase_returns (profile : Option ProfileSetting) (phase : Phase) (rest : List StepPod) :
    Returns (I (t.podsOf profile phase ++ rest)) (t.runPhase env profile phase)
      fun report w => I rest w ∧ report.errors = t.faultsOf profile phase := by
  unfold runPhase Runner.runPhase podsOf faultsOf
  cases (t.synthesizer profile).generatePods (t.definition.steps phase) with
  | error errors => exact .done fun _ hw => ⟨hw, rfl⟩
  | ok pods =>
    cases pods with
    | nil => exact .done fun _ hw => ⟨hw, rfl⟩
    | cons p pods =>
      refine .bind (h _ _ (p :: pods) rest) fun x => .known fun hnil => .done fun _ hw => ⟨hw, ?_⟩
      rw [hnil]
      rfl

theorem runPhases_returns (profile : Option ProfileSetting) :
    Returns (I (t.plan profile)) (t.runPhases env profile)
      fun report w => I [] w ∧ report.errors = t.plannedErrors profile := by
  have hphase := t.runPhase_returns h profile
  have hpost := hphase .post []
  rw [List.append_nil] at hpost
  unfold plan plannedErrors
  rw [runPhases_eq, List.append_assoc]
  refine .bind (hphase .pre _) fun setup => .known fun hsetup => ?_
  rw [hsetup]
  refine .bind (Q := fun tested w => I (t.podsOf profile .post) w ∧
    ((t.faultsOf profile .pre).isEmpty = true → tested.errors = t.faultsOf profile .test)) ?_
    fun tested => .known fun htested => ?_
  · split
    · exact (hphase .test _).weaken (fun _ hw => hw) (fun _ _ hw => ⟨hw.1, fun _ => hw.2⟩)
        fun _ hf => hf
    · rename_i hfaults
      exact .done fun _ hw => ⟨hw, fun hnone => absurd hnone hfaults⟩
  · refine .bind hpost fun cleaned => .known fun hcleaned => .done fun _ hw => ⟨hw, ?_⟩
    rw [hcleaned]
    split
    · rename_i hnone
      rw [htested hnone]
    · rfl

/-- From the configuration on a run goes as planned. -/
theorem run_returns {params : Parameters σ} {P J F : World σ → Prop}
    {setting : Except ConfigurationError (Option ProfileSetting)}
    (hprofile : Returns P (t.resolveProfile env params) fun x w => J w ∧ x = setting)
    (hrefused : ∀ e, setting = .error e → ∀ w, J w → F w)
    (hsecret : ∀ profile, setting = .ok profile →
      Returns J (t.createResultsSecret env) fun x w => I (t.plan profile) w ∧ x = .ok ())
    (hdone : ∀ w, I [] w → F w) :
    Returns P (t.run env params) fun x w => F w ∧ x.1 = t.outcomeOf setting := by
  have hinvoke : Returns P (t.invoke env params) fun x w => F w ∧ x.1 = t.outcomeOf setting := by
    cases setting with
    | error e =>
      have hprepare : Returns P (t.prepare env params)
          fun x w => J w ∧ x = .error (.configuration e) := by
        refine .bind hprofile fun x => .known fun heq => ?_
        subst heq
        exact .done fun _ hw => ⟨hw, rfl⟩
      refine .bind hprepare fun x => .known fun heq => ?_
      subst heq
      exact .done fun w hw => ⟨hrefused e rfl w hw, rfl⟩
    | ok profile =>
      have hprepare : Returns P (t.prepare env params)
          fun x w => I (t.plan profile) w ∧ x = .ok profile := by
        refine .bind hprofile fun x => .known fun heq => ?_
        subst heq
        refine .bind (hsecret profile rfl) fun created => .known fun heq => ?_
        subst heq
        exact .done fun _ hw => ⟨hw, rfl⟩
      refine .bind hprepare fun x => .known fun heq => ?_
      subst heq
      refine .bind (t.runPhases_returns h profile) fun report => .known fun heq =>
        .done fun w hw => ⟨hdone w hw, ?_⟩
      rw [heq]
      rfl
  refine .bind hinvoke fun x => .known fun hx => .done fun _ hw => ⟨hw, hx⟩

end StagedTest

end

end StagedTests
