import StagedTests.Proofs.Error
import StagedTests.Proofs.Pod.Synthesis

/-!
# What comes of a list of steps

Either every step has a pod, and the answer is these pods in the order of their steps, or some step
has none. Then the answer is the errors of all steps without a pod, one for each and in the order
of the steps. The error of a step is the first of three faults that it has, looked for in a fixed
order, and names the step and the pod that it would have had.
-/

namespace StagedTests

namespace Synthesizer

variable (s : Synthesizer)

/-- What keeps a step from having a pod: each fault only where those in front of it are absent. -/
inductive FaultOf (step : Step) : SynthesisFault → Prop
  | reservedName (hname : s.test ∈ reservedNames) : FaultOf step (.reservedName s.test)
  | image (hname : s.test ∉ reservedNames) (hblank : Text.trim step.image = "") :
      FaultOf step (.image s!"step {Text.quoted step.name} does not name an image")
  | resources {e : ResourceError} (hname : s.test ∉ reservedNames)
      (himage : Text.trim step.image ≠ "")
      (h : s.config.presets.requirements step.resources = .error e) : FaultOf step (.resources e)

def fails (step : Step) : Bool := (errorOf? (s.generatePod step)).isSome

def Fails (steps : List Step) (errors : List SynthesisError) : Prop :=
  List.Forall₂ (fun step e => s.generatePod step = .error e) (steps.filter s.fails) errors

variable {s}

theorem fails_of_ok {step : Step} {p : StepPod} (h : s.generatePod step = .ok p) :
    s.fails step = false := by
  rw [fails, h]
  rfl

theorem fails_of_error {step : Step} {e : SynthesisError} (h : s.generatePod step = .error e) :
    s.fails step = true := by
  rw [fails, h]
  rfl

theorem FaultOf.generatePod {step : Step} {fault : SynthesisFault} (h : s.FaultOf step fault) :
    s.generatePod step = .error ⟨step.name, s.podName step, fault⟩ := by
  unfold Synthesizer.generatePod fail
  cases h with
  | reservedName hname => rw [if_pos (List.contains_iff_mem.mpr hname)]
  | image hname hblank => rw [if_neg (mt List.contains_iff_mem.mp hname), if_pos hblank]
  | resources hname himage h =>
    rw [if_neg (mt List.contains_iff_mem.mp hname), if_neg himage, h]

variable (s)

theorem made_or_faultOf (step : Step) :
    (∃ p, s.generatePod step = .ok p) ∨ ∃ fault, s.FaultOf step fault := by
  rcases s.generatePod_outcomes step with
    ⟨hname, -⟩ | ⟨hname, hblank, -⟩ | ⟨hname, himage, e, h, -⟩ | ⟨-, -, _, -, h⟩
  · exact .inr ⟨_, .reservedName hname⟩
  · exact .inr ⟨_, .image hname hblank⟩
  · exact .inr ⟨_, .resources hname himage h⟩
  · exact .inl ⟨_, h⟩

theorem generatePod_eq_error_iff (step : Step) (e : SynthesisError) :
    s.generatePod step = .error e ↔
      ∃ fault, s.FaultOf step fault ∧ e = ⟨step.name, s.podName step, fault⟩ := by
  constructor
  · intro he
    rcases s.made_or_faultOf step with ⟨p, hp⟩ | ⟨fault, hfault⟩
    · cases hp.symm.trans he
    · exact ⟨fault, hfault, Except.error.inj (he.symm.trans hfault.generatePod)⟩
  · rintro ⟨fault, hfault, rfl⟩
    exact hfault.generatePod

theorem fails_faults (steps : List Step) : s.Fails steps (s.faults steps) := by
  unfold Fails faults
  induction steps with
  | nil => exact .nil
  | cons step rest ih =>
    cases h : s.generatePod step with
    | ok p =>
      rw [List.filter_cons_of_neg (by simp [fails_of_ok h]),
        List.filterMap_cons_none (by rw [h]; rfl)]
      exact ih
    | error e =>
      rw [List.filter_cons_of_pos (fails_of_error h),
        List.filterMap_cons_some (b := e) (by rw [h]; rfl)]
      exact .cons h ih

variable {s}

theorem Makes.unique {steps : List Step} {pods pods' : List StepPod} (h : s.Makes steps pods)
    (h' : s.Makes steps pods') : pods = pods' := by
  have hunique : Relator.RightUnique fun step p => s.generatePod step = .ok p :=
    fun _ _ _ hp hp' => Except.ok.inj (hp.symm.trans hp')
  exact hunique.forall₂ h h'

theorem Fails.unique {steps : List Step} {errors errors' : List SynthesisError}
    (h : s.Fails steps errors) (h' : s.Fails steps errors') : errors = errors' := by
  have hunique : Relator.RightUnique fun step e => s.generatePod step = .error e :=
    fun _ _ _ he he' => Except.error.inj (he.symm.trans he')
  exact hunique.forall₂ h h'

variable (s)

theorem generatePods_eq_ok_iff (steps : List Step) (pods : List StepPod) :
    s.generatePods steps = .ok pods ↔ s.Makes steps pods := by
  refine ⟨s.makes_of_generatePods, fun h => ?_⟩
  obtain ⟨made, hmade, hmakes⟩ := s.generatePods_of_no_faults h.faults_eq_nil
  rw [hmade, hmakes.unique h]

theorem generatePods_eq_error_iff (steps : List Step) (errors : List SynthesisError) :
    s.generatePods steps = .error errors ↔ errors ≠ [] ∧ s.Fails steps errors := by
  constructor
  · intro h
    by_cases hfaults : s.faults steps = []
    · obtain ⟨made, hmade, -⟩ := s.generatePods_of_no_faults hfaults
      cases hmade.symm.trans h
    · obtain rfl := Except.error.inj (h.symm.trans (s.generatePods_of_faults hfaults))
      exact ⟨hfaults, s.fails_faults steps⟩
  · rintro ⟨hne, h⟩
    obtain rfl := h.unique (s.fails_faults steps)
    exact s.generatePods_of_faults hne

/-- No error of a step is a list of others, so gathering them leaves them as they are. -/
theorem resultOf_synthesis {errors : List SynthesisError} (h : errors ≠ []) :
    TestError.resultOf (errors.map .synthesis) = .error (errors.map .synthesis) := by
  rw [TestError.resultOf_of_ne_nil (mt List.map_eq_nil_iff.mp h), TestError.flatten_of_leaves]
  exact List.forall_mem_map.mpr fun _ _ => trivial

/-- How a list of steps is answered: with the pods of all steps, each at its step's place, or with
the errors of all steps that have none, in one list that holds no other. The error of a step names
it and its pod, and the first fault that it has. -/
structure Answered (steps : List Step) : Prop where
  ok_iff : (∃ pods, s.generatePods steps = .ok pods) ↔
    ∀ step ∈ steps, ∃ p, s.generatePod step = .ok p
  pods : ∀ pods, s.generatePods steps = .ok pods ↔
    List.Forall₂ (fun step p => s.generatePod step = .ok p) steps pods
  errors : ∀ errors, s.generatePods steps = .error errors ↔
    errors ≠ [] ∧
      List.Forall₂ (fun step e => s.generatePod step = .error e) (steps.filter s.fails) errors
  flat : ∀ errors, s.generatePods steps = .error errors →
    TestError.resultOf (errors.map .synthesis) = .error (errors.map .synthesis)
  fault : ∀ step e, s.generatePod step = .error e ↔
    ∃ fault, s.FaultOf step fault ∧ e = ⟨step.name, s!"{s.test}-{step.name}", fault⟩

/-- Every list of steps is answered with all of its pods or with all of its errors. -/
theorem generatePods_answered (steps : List Step) : s.Answered steps where
  ok_iff := by
    rw [← s.faults_eq_nil_iff steps]
    constructor
    · rintro ⟨pods, h⟩
      exact (s.makes_of_generatePods h).faults_eq_nil
    · intro h
      obtain ⟨pods, hpods, -⟩ := s.generatePods_of_no_faults h
      exact ⟨pods, hpods⟩
  pods := s.generatePods_eq_ok_iff steps
  errors := s.generatePods_eq_error_iff steps
  flat errors h := resultOf_synthesis ((s.generatePods_eq_error_iff steps errors).mp h).1
  fault := s.generatePod_eq_error_iff

/-- Two of three steps have no pod: one names no image, the other a preset that is not there. -/
example :
    let s : Synthesizer :=
      ⟨"e2e", .standard, { inNamespace := "ns", name := "job", buildId := "1" }, none⟩
    let asking : Step := { Step.ofCommands "ask" "src" "true" with resources := .ofPreset "gpu" }
    s.faults [.ofCommands "blank" " " "true", .ofCommands "fine" "src" "true", asking] =
      [⟨"blank", "e2e-blank", .image "step \"blank\" does not name an image"⟩,
        ⟨"ask", "e2e-ask", .resources (.unknownPreset "gpu")⟩] := by
  decide +kernel

end Synthesizer

end StagedTests
