import Mathlib.Data.List.Nodup
import StagedTests.Proofs.Pod.Synthesis

/-!
# The parts of a pod

A pod is put together from parts that refer to each other by name: a mount names a volume, and the
volume of results takes the name of the test. No test has the name of another volume, so the names
of the volumes differ and each mount means the volume it was made for.
-/

namespace StagedTests

namespace PodSpec

def allContainers (spec : PodSpec) : List Container :=
  spec.initContainers ++ spec.containers

def volumesNamed (spec : PodSpec) (name : String) : List Volume :=
  spec.volumes.filter fun v => v.name = name

/-- Where a volume is mounted: the containers, and the paths in them. -/
def mountsOf (spec : PodSpec) (volume : String) : List (Container × String) :=
  spec.allContainers.flatMap fun c =>
    (c.mounts.filter fun m => m.name = volume).map fun m => (c, m.path)

end PodSpec

namespace Synthesizer

/-! ## Optional parts -/

section IfSome

variable {α β γ : Type} (x : Option α) (f : α → List β)

@[simp] theorem ifSome_none : ifSome none f = [] := rfl

@[simp] theorem ifSome_some (a : α) : ifSome (some a) f = f a := rfl

@[simp] theorem ifSome_nil : (ifSome x fun _ => ([] : List β)) = [] := by
  cases x <;> rfl

theorem ifSome_map (g : β → γ) : (ifSome x f).map g = ifSome x fun a => (f a).map g := by
  cases x <;> rfl

theorem ifSome_filter (p : β → Bool) :
    (ifSome x f).filter p = ifSome x fun a => (f a).filter p := by
  cases x <;> rfl

theorem ifSome_flatMap (g : β → List γ) :
    (ifSome x f).flatMap g = ifSome x fun a => (f a).flatMap g := by
  cases x <;> rfl

theorem ifSome_sublist {l : List β} (h : ∀ a, (f a).Sublist l) : (ifSome x f).Sublist l := by
  cases x with
  | none => exact l.nil_sublist
  | some a => exact h a

end IfSome

/-- What the pod of a step is put together from. -/
structure MadeFrom (s : Synthesizer) (step : Step) (resources : Requirements) (p : StepPod)
    (spec : PodSpec) : Prop where
  unreserved : s.test ∉ reservedNames
  spec_eq : p.pod.spec = some spec
  metadata : p.pod.metadata = s.metadata step
  hasArtifacts : p.hasArtifacts = step.artifactDir.isSome
  initContainers : spec.initContainers = [s.wrapperCopier]
  containers : spec.containers =
    s.stepContainer step (s.imageOf step) resources :: ifSome step.artifactDir fun _ => [s.keeper]
  volumes : spec.volumes = s.volumes step

variable {s : Synthesizer} {step : Step} {resources : Requirements} {p : StepPod} {spec : PodSpec}

theorem madeFrom_of_generatePod (h : s.generatePod step = .ok p) :
    ∃ resources spec, s.MadeFrom step resources p spec := by
  rcases s.generatePod_outcomes step with
    ⟨-, heq⟩ | ⟨-, -, _, heq⟩ | ⟨-, -, _, -, heq⟩ | ⟨hreserved, -, resources, -, heq⟩
  all_goals rw [heq] at h; cases h
  exact ⟨resources, _, ⟨hreserved, rfl, rfl, rfl, rfl, rfl, rfl⟩⟩

/-! ## Volumes -/

theorem fixed_ne : artifactsVolume ≠ wrapperVolume ∧ artifactsVolume ≠ profileVolume ∧
    wrapperVolume ≠ artifactsVolume ∧ wrapperVolume ≠ profileVolume ∧
    profileVolume ≠ artifactsVolume ∧ profileVolume ≠ wrapperVolume := by
  decide

theorem MadeFrom.test_ne (h : s.MadeFrom step resources p spec) :
    s.test ≠ artifactsVolume ∧ s.test ≠ wrapperVolume ∧ s.test ≠ profileVolume := by
  simpa [reservedNames] using h.unreserved

theorem volumeNames_sublist (s : Synthesizer) (step : Step) :
    ((s.volumes step).map (·.name)).Sublist (reservedNames ++ [s.test]) := by
  simp only [volumes, List.map_append, ifSome_map]
  have hartifacts := ifSome_sublist step.artifactDir _ fun _ => List.Sublist.refl [artifactsVolume]
  have hprofile := ifSome_sublist s.profile _ fun _ => List.Sublist.refl [profileVolume]
  exact ((hartifacts.append (.refl [wrapperVolume])).append hprofile).append (.refl [s.test])

-- The names are among the reserved ones and that of the test, in this order, whatever is left out.
theorem MadeFrom.volumeNames_nodup (h : s.MadeFrom step resources p spec) :
    (spec.volumes.map (·.name)).Nodup := by
  rw [h.volumes]
  refine List.Nodup.sublist (s.volumeNames_sublist step) ?_
  rw [← List.concat_eq_append, List.nodup_concat]
  exact ⟨h.unreserved, by decide⟩

theorem MadeFrom.volumesNamed_artifacts (h : s.MadeFrom step resources p spec) :
    spec.volumesNamed artifactsVolume =
      ifSome step.artifactDir fun _ => [⟨artifactsVolume, .emptyDir⟩] := by
  obtain ⟨hartifacts, -, -⟩ := h.test_ne
  rw [PodSpec.volumesNamed, h.volumes]
  simp [Synthesizer.volumes, ifSome_filter, fixed_ne, hartifacts]

theorem MadeFrom.volumesNamed_profile (h : s.MadeFrom step resources p spec) :
    spec.volumesNamed profileVolume =
      ifSome s.profile fun _ => [⟨profileVolume, .secret (profileSecretName s.test)⟩] := by
  obtain ⟨-, -, hprofile⟩ := h.test_ne
  rw [PodSpec.volumesNamed, h.volumes]
  simp [Synthesizer.volumes, ifSome_filter, fixed_ne, hprofile]

theorem MadeFrom.volumesNamed_test (h : s.MadeFrom step resources p spec) :
    spec.volumesNamed s.test = [⟨s.test, .secret s.test⟩] := by
  obtain ⟨hartifacts, hwrapper, hprofile⟩ := h.test_ne
  rw [PodSpec.volumesNamed, h.volumes]
  simp [Synthesizer.volumes, ifSome_filter, hartifacts.symm, hwrapper.symm, hprofile.symm]

/-! ## Mounts -/

theorem MadeFrom.mem_allContainers (h : s.MadeFrom step resources p spec) {c : Container} :
    c ∈ spec.allContainers ↔ c = s.wrapperCopier ∨
      c = s.stepContainer step (s.imageOf step) resources ∨
      (step.artifactDir.isSome ∧ c = s.keeper) := by
  rw [PodSpec.allContainers, h.initContainers, h.containers]
  cases step.artifactDir <;> simp

/-- The container of a step mounts every volume, in their order. -/
theorem mountNames_eq (s : Synthesizer) (step : Step) :
    (s.mounts step).map (·.name) = (s.volumes step).map (·.name) := by
  simp only [mounts, volumes, List.map_append, ifSome_map]
  rfl

theorem MadeFrom.declared (h : s.MadeFrom step resources p spec) {c : Container}
    (hc : c ∈ spec.allContainers) {m : VolumeMount} (hm : m ∈ c.mounts) :
    m.name ∈ spec.volumes.map (·.name) := by
  rw [h.volumes]
  rcases h.mem_allContainers.mp hc with rfl | rfl | ⟨hkept, rfl⟩
  · obtain rfl := List.mem_singleton.mp hm
    simp [Synthesizer.volumes, wrapperMount]
  · rw [← mountNames_eq]
    exact List.mem_map_of_mem hm
  · obtain rfl := List.mem_singleton.mp hm
    obtain ⟨dir, hdir⟩ := Option.isSome_iff_exists.mp hkept
    simp [Synthesizer.volumes, hdir]

theorem MadeFrom.mountsOf_eq (h : s.MadeFrom step resources p spec) (volume : String) :
    spec.mountsOf volume =
      ([wrapperMount].filter fun m => m.name = volume).map (fun m => (s.wrapperCopier, m.path)) ++
      (((s.mounts step).filter fun m => m.name = volume).map
        (fun m => (s.stepContainer step (s.imageOf step) resources, m.path)) ++
      ifSome step.artifactDir fun _ =>
        (s.keeper.mounts.filter fun m => m.name = volume).map fun m => (s.keeper, m.path)) := by
  rw [PodSpec.mountsOf, PodSpec.allContainers, h.initContainers, h.containers,
    List.singleton_append, List.flatMap_cons, List.flatMap_cons, ifSome_flatMap]
  simp only [List.flatMap_singleton]
  rfl

theorem MadeFrom.mountsOf_artifacts (h : s.MadeFrom step resources p spec) :
    spec.mountsOf artifactsVolume = ifSome step.artifactDir fun dir =>
      [(s.stepContainer step (s.imageOf step) resources, dir), (s.keeper, artifactsMountPath)] := by
  obtain ⟨hartifacts, -, -⟩ := h.test_ne
  rw [h.mountsOf_eq]
  cases hdir : step.artifactDir <;>
    simp [mounts, keeper, ifSome_filter, fixed_ne, wrapperMount, hartifacts, hdir]

theorem MadeFrom.mountsOf_profile (h : s.MadeFrom step resources p spec) :
    spec.mountsOf profileVolume = ifSome s.profile fun _ =>
      [(s.stepContainer step (s.imageOf step) resources, profileMountPath)] := by
  obtain ⟨-, -, hprofile⟩ := h.test_ne
  rw [h.mountsOf_eq]
  simp [mounts, keeper, ifSome_filter, ifSome_map, fixed_ne, wrapperMount, hprofile]

theorem MadeFrom.mountsOf_test (h : s.MadeFrom step resources p spec) :
    spec.mountsOf s.test =
      [(s.stepContainer step (s.imageOf step) resources, resultsMountPath)] := by
  obtain ⟨hartifacts, hwrapper, hprofile⟩ := h.test_ne
  rw [h.mountsOf_eq]
  simp [mounts, keeper, ifSome_filter, wrapperMount, hartifacts.symm, hwrapper.symm,
    hprofile.symm]

/-! ## The whole pod -/

def profileVariables : List String :=
  ["CLUSTER_TYPE", "KUBECONFIG", "RELEASE_IMAGE_INITIAL", "RELEASE_IMAGE_LATEST"]

theorem env_profile (s : Synthesizer) (step : Step) :
    ((s.env step).filter fun e => profileVariables.contains e.name) =
      ifSome s.profile fun x => [⟨"CLUSTER_TYPE", x.profile.clusterType⟩,
        ⟨"KUBECONFIG", resultsMountPath ++ "/kubeconfig"⟩, ⟨"RELEASE_IMAGE_INITIAL", x.initial⟩,
        ⟨"RELEASE_IMAGE_LATEST", x.latest⟩] := by
  simp [env, ifSome_filter, profileVariables]

/-- How the pod of a step is put together, where `main` is the first of its containers. What a
profile or artifacts contribute is there exactly if they are. -/
structure Assembled (s : Synthesizer) (step : Step) (p : StepPod) (spec : PodSpec)
    (main : Container) : Prop where
  spec_eq : p.pod.spec = some spec
  volumes_differ : (spec.volumes.map (·.name)).Nodup
  mounts_declared : ∀ c ∈ spec.allContainers, ∀ m ∈ c.mounts, ∃ v ∈ spec.volumes, v.name = m.name
  containers : spec.containers = main :: ifSome step.artifactDir fun _ => [s.keeper]
  name : main.name = step.name
  command : main.command = [wrapperPath]
  args : main.args = ["/bin/bash", "-c", "#!/bin/bash\nset -eu\n" ++ step.commands]
  results_volume : spec.volumesNamed s.test = [⟨s.test, .secret s.test⟩]
  results_mount : spec.mountsOf s.test = [(main, resultsMountPath)]
  profile_volume : spec.volumesNamed profileVolume =
    ifSome s.profile fun _ => [⟨profileVolume, .secret (profileSecretName s.test)⟩]
  profile_mount : spec.mountsOf profileVolume =
    ifSome s.profile fun _ => [(main, profileMountPath)]
  profile_env : (main.env.filter fun e => profileVariables.contains e.name) =
    ifSome s.profile fun x => [⟨"CLUSTER_TYPE", x.profile.clusterType⟩,
      ⟨"KUBECONFIG", resultsMountPath ++ "/kubeconfig"⟩, ⟨"RELEASE_IMAGE_INITIAL", x.initial⟩,
      ⟨"RELEASE_IMAGE_LATEST", x.latest⟩]
  artifacts_volume : spec.volumesNamed artifactsVolume =
    ifSome step.artifactDir fun _ => [⟨artifactsVolume, .emptyDir⟩]
  artifacts_mounts : spec.mountsOf artifactsVolume =
    ifSome step.artifactDir fun dir => [(main, dir), (s.keeper, artifactsMountPath)]
  hasArtifacts : p.hasArtifacts = step.artifactDir.isSome
  owners : p.pod.metadata.owners = s.job.owner.map fun o => [o]
  label : p.pod.label? testLabel = some s.test

theorem MadeFrom.assembled (h : s.MadeFrom step resources p spec) :
    s.Assembled step p spec (s.stepContainer step (s.imageOf step) resources) where
  spec_eq := h.spec_eq
  volumes_differ := h.volumeNames_nodup
  mounts_declared c hc m hm := List.mem_map.mp (h.declared hc hm)
  containers := h.containers
  name := rfl
  command := rfl
  args := rfl
  results_volume := h.volumesNamed_test
  results_mount := h.mountsOf_test
  profile_volume := h.volumesNamed_profile
  profile_mount := h.mountsOf_profile
  profile_env := s.env_profile step
  artifacts_volume := h.volumesNamed_artifacts
  artifacts_mounts := h.mountsOf_artifacts
  hasArtifacts := h.hasArtifacts
  owners := by rw [h.metadata, Synthesizer.metadata]
  label := by
    rw [Pod.label?, h.metadata]
    exact s.job.labels.get?_insert_self testLabel s.test

/-- Every pod that is made is put together as described. -/
theorem generatePod_assembled {s : Synthesizer} {step : Step} {p : StepPod}
    (h : s.generatePod step = .ok p) : ∃ spec main, s.Assembled step p spec main := by
  obtain ⟨resources, spec, hmade⟩ := madeFrom_of_generatePod h
  exact ⟨spec, _, hmade.assembled⟩

end Synthesizer

namespace Rehearsal

def profiledSynthesizer : Synthesizer where
  test := "e2e"
  config := .standard
  job :=
    { inNamespace := "ci", name := "nightly"
      owner := some ⟨"v1", "ConfigMap", "run", "7", none, none⟩ }
  profile := some ⟨.gcp, "initial", "latest"⟩

def collectedStep : Step where
  name := "check"
  image := "src"
  commands := "make check"
  resources := .empty
  artifactDir := some "/logs"

end Rehearsal

theorem Synthesizer.generatePod_assembled_collected : ∃ p,
    Rehearsal.profiledSynthesizer.generatePod Rehearsal.collectedStep = .ok p ∧
      ∃ spec main, Rehearsal.profiledSynthesizer.Assembled Rehearsal.collectedStep p spec main := by
  have h : ∃ p, Rehearsal.profiledSynthesizer.generatePod Rehearsal.collectedStep = .ok p :=
    ⟨_, rfl⟩
  obtain ⟨p, hp⟩ := h
  exact ⟨p, hp, generatePod_assembled hp⟩

end StagedTests
