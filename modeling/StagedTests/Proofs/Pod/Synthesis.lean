import Mathlib.Data.List.Forall2
import StagedTests.Pod.Synthesis

/-!
# The pods of a list of steps

Making the pods of a list of steps either gives the pod of every step or the faults of all steps
that have none. Pods and faults both name the step they belong to.
-/

namespace StagedTests

def errorOf? {ε α : Type} : Except ε α → Option ε
  | .ok _ => none
  | .error e => some e

namespace Synthesizer

variable (s : Synthesizer)

def Makes (steps : List Step) (pods : List StepPod) : Prop :=
  List.Forall₂ (fun step p => s.generatePod step = .ok p) steps pods

def faults (steps : List Step) : List SynthesisError :=
  steps.filterMap fun step => errorOf? (s.generatePod step)

theorem faults_eq_nil_iff (steps : List Step) :
    s.faults steps = [] ↔ ∀ step ∈ steps, ∃ p, s.generatePod step = .ok p := by
  rw [faults, List.filterMap_eq_nil_iff]
  refine forall₂_congr fun step _ => ?_
  cases s.generatePod step <;> simp [errorOf?]

theorem faults_ne_nil_iff (steps : List Step) :
    s.faults steps ≠ [] ↔ ∃ step ∈ steps, ∃ e, s.generatePod step = .error e := by
  rw [ne_eq, faults, List.filterMap_eq_nil_iff]
  push Not
  refine exists_congr fun step => and_congr_right fun _ => ?_
  cases s.generatePod step <;> simp [errorOf?]

variable {s} in
theorem Makes.faults_eq_nil {steps : List Step} {pods : List StepPod} (h : s.Makes steps pods) :
    s.faults steps = [] := by
  induction h with
  | nil => rfl
  | cons hp _ ih => simpa [faults, hp, errorOf?] using ih

theorem attempt_eq (steps : List Step) :
    (s.attempt steps).2 = s.faults steps ∧
      (s.faults steps = [] → s.Makes steps (s.attempt steps).1) := by
  induction steps with
  | nil => exact ⟨rfl, fun _ => .nil⟩
  | cons step rest ih =>
    obtain ⟨hfaults, hpods⟩ := ih
    cases h : s.generatePod step with
    | error e => simp [attempt, faults, h, errorOf?, hfaults]
    | ok p =>
      refine ⟨by simp [attempt, faults, h, errorOf?, hfaults], fun hnil => ?_⟩
      have hrest : s.faults rest = [] := by simpa [faults, h, errorOf?] using hnil
      simpa only [attempt, h] using .cons h (hpods hrest)

theorem generatePods_of_no_faults {steps : List Step} (h : s.faults steps = []) :
    ∃ pods, s.generatePods steps = .ok pods ∧ s.Makes steps pods := by
  obtain ⟨hfaults, hpods⟩ := s.attempt_eq steps
  refine ⟨_, ?_, hpods h⟩
  rw [h] at hfaults
  unfold generatePods
  split
  · rename_i heq; rw [heq]
  · rename_i hne heq; rw [heq] at hfaults; exact (hne hfaults).elim

theorem generatePods_of_faults {steps : List Step} (h : s.faults steps ≠ []) :
    s.generatePods steps = .error (s.faults steps) := by
  obtain ⟨hfaults, -⟩ := s.attempt_eq steps
  unfold generatePods
  split
  · rename_i heq; rw [heq] at hfaults; exact absurd hfaults.symm h
  · rename_i heq; rw [heq] at hfaults; rw [← hfaults]

theorem makes_of_generatePods {steps : List Step} {pods : List StepPod}
    (h : s.generatePods steps = .ok pods) : s.Makes steps pods := by
  by_cases hfaults : s.faults steps = []
  · obtain ⟨made, hmade, hmakes⟩ := s.generatePods_of_no_faults hfaults
    rw [h] at hmade
    cases hmade
    exact hmakes
  · rw [s.generatePods_of_faults hfaults] at h
    cases h

/-- All that can come of a step: the first of three faults that it has, or its pod. -/
theorem generatePod_outcomes (step : Step) :
    (s.test ∈ reservedNames ∧
      s.generatePod step = .error ⟨step.name, s.podName step, .reservedName s.test⟩) ∨
    (s.test ∉ reservedNames ∧ Text.trim step.image = "" ∧
      ∃ reason, s.generatePod step = .error ⟨step.name, s.podName step, .image reason⟩) ∨
    (s.test ∉ reservedNames ∧ Text.trim step.image ≠ "" ∧
      ∃ e, s.config.presets.requirements step.resources = .error e ∧
        s.generatePod step = .error ⟨step.name, s.podName step, .resources e⟩) ∨
    (s.test ∉ reservedNames ∧ Text.trim step.image ≠ "" ∧
      ∃ resources, s.config.presets.requirements step.resources = .ok resources ∧
        s.generatePod step =
          .ok ⟨step.name, s.podOf step (s.imageOf step) resources, step.artifactDir.isSome⟩) := by
  unfold generatePod fail
  by_cases hreserved : s.test ∈ reservedNames
  · rw [if_pos (List.contains_iff_mem.mpr hreserved)]
    exact .inl ⟨hreserved, rfl⟩
  · rw [if_neg (mt List.contains_iff_mem.mp hreserved)]
    by_cases hblank : Text.trim step.image = ""
    · rw [if_pos hblank]
      exact .inr (.inl ⟨hreserved, hblank, _, rfl⟩)
    · rw [if_neg hblank]
      cases hresources : s.config.presets.requirements step.resources with
      | error e => exact .inr (.inr (.inl ⟨hreserved, hblank, e, rfl, rfl⟩))
      | ok resources => exact .inr (.inr (.inr ⟨hreserved, hblank, resources, rfl, rfl⟩))

/-- A step has a pod or a fault, and both are known up to its resources and the cause. -/
theorem generatePod_cases (step : Step) :
    (∃ resources, s.generatePod step =
      .ok ⟨step.name, s.podOf step (s.imageOf step) resources, step.artifactDir.isSome⟩) ∨
    ∃ fault, s.generatePod step = .error ⟨step.name, s.podName step, fault⟩ := by
  rcases s.generatePod_outcomes step with
    ⟨-, h⟩ | ⟨-, -, _, h⟩ | ⟨-, -, _, -, h⟩ | ⟨-, -, resources, -, h⟩
  · exact .inr ⟨_, h⟩
  · exact .inr ⟨_, h⟩
  · exact .inr ⟨_, h⟩
  · exact .inl ⟨resources, h⟩

theorem generatePod_names (step : Step) :
    match s.generatePod step with
    | .ok p => p.step = step.name ∧ p.name = s.podName step
    | .error e => e.step = step.name ∧ e.pod = s.podName step := by
  rcases s.generatePod_cases step with ⟨resources, h⟩ | ⟨fault, h⟩
  · rw [h]
    exact ⟨rfl, rfl⟩
  · rw [h]
    exact ⟨rfl, rfl⟩

theorem generatePod_metadata {step : Step} {p : StepPod} (h : s.generatePod step = .ok p) :
    p.pod.metadata = s.metadata step := by
  rcases s.generatePod_cases step with ⟨resources, heq⟩ | ⟨fault, heq⟩
  · rw [heq] at h
    cases h
    rfl
  · rw [heq] at h
    cases h

theorem generatePod_label {step : Step} {p : StepPod} (h : s.generatePod step = .ok p) :
    (p.pod.metadata.labels.getD ∅).get? testLabel = some s.test := by
  rw [s.generatePod_metadata h]
  exact s.job.labels.get?_insert_self testLabel s.test

theorem Makes.exists_step {s : Synthesizer} {steps : List Step} {pods : List StepPod}
    (h : s.Makes steps pods) : ∀ p ∈ pods, ∃ step ∈ steps, s.generatePod step = .ok p := by
  induction h with
  | nil => exact fun _ h => nomatch h
  | cons hp _ ih =>
    refine List.forall_mem_cons.mpr ⟨⟨_, List.mem_cons_self, hp⟩, fun q hq => ?_⟩
    obtain ⟨step, hstep, hmade⟩ := ih q hq
    exact ⟨step, List.mem_cons_of_mem _ hstep, hmade⟩

theorem Makes.label {s : Synthesizer} {steps : List Step} {pods : List StepPod}
    (h : s.Makes steps pods) :
    ∀ p ∈ pods, (p.pod.metadata.labels.getD ∅).get? testLabel = some s.test := by
  intro p hp
  obtain ⟨step, -, hmade⟩ := h.exists_step p hp
  exact s.generatePod_label hmade

end Synthesizer

end StagedTests
