import StagedTests.Proofs.Pod.Assembly

/-!
# Names and paths that clash

A cluster takes a pod only if its containers differ in their names and the mounts of each container
in their paths. Names of tests are kept apart from those of volumes, but a step may have the name of
a container that is put beside its own, and its artifacts may lie where something else is mounted.
The main statement tells exactly when.
-/

namespace StagedTests

def copierName : String := "cp-secret-wrapper"

namespace PodSpec

def NamesDiffer (spec : PodSpec) : Prop :=
  (spec.allContainers.map (·.name)).Nodup

def PathsDiffer (spec : PodSpec) : Prop :=
  ∀ c ∈ spec.allContainers, (c.mounts.map (·.path)).Nodup

end PodSpec

namespace Synthesizer

variable {s : Synthesizer} {step : Step} {resources : Requirements} {p : StepPod} {spec : PodSpec}

theorem MadeFrom.containerNames (h : s.MadeFrom step resources p spec) :
    spec.allContainers.map (·.name) =
      copierName :: step.name :: ifSome step.artifactDir fun _ => [artifactsContainer] := by
  rw [PodSpec.allContainers, h.initContainers, h.containers]
  simp only [List.map_append, List.map_cons, ifSome_map]
  rfl

theorem MadeFrom.namesDiffer_iff (h : s.MadeFrom step resources p spec) :
    spec.NamesDiffer ↔ step.name ≠ copierName ∧
      (step.artifactDir.isSome → step.name ≠ artifactsContainer) := by
  have hfixed : copierName ≠ artifactsContainer := by decide
  rw [PodSpec.NamesDiffer, h.containerNames]
  cases step.artifactDir with
  | none => simp [eq_comm]
  | some dir => simp [hfixed, eq_comm]

/-- The paths at which the volumes of a step are mounted, beside that of its artifacts. -/
def fixedPaths (s : Synthesizer) : List String :=
  [wrapperDir] ++ ifSome s.profile (fun _ => [profileMountPath]) ++ [resultsMountPath]

theorem fixedPaths_nodup : s.fixedPaths.Nodup := by
  have hprofile := ifSome_sublist s.profile _ fun _ => List.Sublist.refl [profileMountPath]
  exact List.Nodup.sublist (((List.Sublist.refl _).append hprofile).append (.refl _)) (by decide)

theorem mountPaths_eq (step : Step) :
    (s.mounts step).map (·.path) = step.artifactDir.toList ++ s.fixedPaths := by
  rw [mounts, fixedPaths]
  cases step.artifactDir <;> simp [ifSome_map, wrapperMount]

theorem mountPaths_nodup_iff (step : Step) :
    ((s.mounts step).map (·.path)).Nodup ↔ ∀ dir ∈ step.artifactDir, dir ∉ s.fixedPaths := by
  rw [mountPaths_eq]
  cases step.artifactDir with
  | none => simp [fixedPaths_nodup]
  | some dir => simp [fixedPaths_nodup]

theorem MadeFrom.pathsDiffer_iff (h : s.MadeFrom step resources p spec) :
    spec.PathsDiffer ↔ ∀ dir ∈ step.artifactDir, dir ∉ s.fixedPaths := by
  rw [← mountPaths_nodup_iff]
  constructor
  · intro hall
    exact hall (s.stepContainer step (s.imageOf step) resources)
      (h.mem_allContainers.mpr (.inr (.inl rfl)))
  · intro hstep c hc
    rcases h.mem_allContainers.mp hc with rfl | rfl | ⟨-, rfl⟩
    · exact List.nodup_singleton wrapperDir
    · exact hstep
    · exact List.nodup_singleton artifactsMountPath

/-- The containers of a pod differ in their names exactly if its step is not named after one of the
others, and no container mounts two volumes at one path exactly if the artifacts of the step do not
lie where another volume is mounted. -/
theorem generatePod_differ_iff {step : Step} {p : StepPod} (h : s.generatePod step = .ok p) :
    ∃ spec, p.pod.spec = some spec ∧
      (spec.NamesDiffer ↔ step.name ≠ copierName ∧
        (step.artifactDir.isSome → step.name ≠ artifactsContainer)) ∧
      (spec.PathsDiffer ↔ ∀ dir ∈ step.artifactDir,
        dir ≠ wrapperDir ∧ dir ≠ resultsMountPath ∧ (s.profile.isSome → dir ≠ profileMountPath)) := by
  obtain ⟨resources, spec, hmade⟩ := madeFrom_of_generatePod h
  refine ⟨spec, hmade.spec_eq, hmade.namesDiffer_iff, ?_⟩
  rw [hmade.pathsDiffer_iff]
  refine forall₂_congr fun dir _ => ?_
  rw [fixedPaths]
  cases s.profile <;> simp [and_comm]

end Synthesizer

namespace Rehearsal

/-- A step that has the name of the container that keeps its artifacts. -/
def clashingStep : Step := { collectedStep with name := "artifacts" }

theorem exists_clashingPod : ∃ p, profiledSynthesizer.generatePod clashingStep = .ok p :=
  ⟨_, rfl⟩

end Rehearsal

namespace Synthesizer

open Rehearsal (profiledSynthesizer clashingStep exists_clashingPod)

theorem generatePod_differ_iff_clashing : ∃ p, profiledSynthesizer.generatePod clashingStep = .ok p ∧
    ∃ spec, p.pod.spec = some spec ∧ ¬ spec.NamesDiffer ∧ spec.PathsDiffer := by
  obtain ⟨p, hp⟩ := exists_clashingPod
  obtain ⟨spec, hspec, hnames, hpaths⟩ := generatePod_differ_iff hp
  refine ⟨p, hp, spec, hspec, fun h => (hnames.mp h).2 rfl rfl, hpaths.mpr ?_⟩
  rintro dir ⟨⟩
  decide

/-- It is not so that the containers of every pod differ in their names. -/
theorem not_forall_generatePod_differ :
    ¬ ∀ (s : Synthesizer) (step : Step) (p : StepPod) (spec : PodSpec),
      s.generatePod step = .ok p → p.pod.spec = some spec →
        spec.NamesDiffer ∧ spec.PathsDiffer := by
  intro hall
  obtain ⟨p, hp⟩ := exists_clashingPod
  obtain ⟨resources, spec, hmade⟩ := madeFrom_of_generatePod hp
  have hnames := (hall _ _ p spec hp hmade.spec_eq).1
  exact (hmade.namesDiffer_iff.mp hnames).2 rfl rfl

end Synthesizer

end StagedTests
