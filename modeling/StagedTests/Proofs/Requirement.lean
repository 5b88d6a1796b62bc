import StagedTests.Proofs.Pod.Synthesis
import StagedTests.Requirement

/-!
# The links of images and the images of pods

A test asks for a link for each image that its steps name, and the pods of the steps run in images
that are looked up when they are made. A step names no image if there is nothing but white space
where its name should be; a link is asked for unless there is nothing at all. The two notions of a
step without an image are why a test may ask for links that none of its pods needs.
-/

namespace StagedTests

/-- The link that is met once the image is there. -/
def ImageSource.link (stream : String) : ImageSource → StepLink
  | .pipeline tag => .internalImage stream tag
  | .build _ => .imagesReady
  | .release _ => .releaseImages

def StepPod.image? (p : StepPod) : Option String :=
  p.pod.spec.bind fun spec => spec.containers.head?.bind (·.image)

namespace Synthesizer

variable (s : Synthesizer) {step : Step} {source : ImageSource}

/-- The image of the step is looked up and comes from the source: a pod is made that runs in it, or
nothing but the resources of the step is at fault. -/
def Resolves (step : Step) (source : ImageSource) : Prop :=
  s.config.images.classify step.image = source ∧
    ((∃ p, s.generatePod step = .ok p ∧
        p.image? = some (source.reference s.config.imageStream)) ∨
      ∃ e, s.generatePod step = .error ⟨step.name, s.podName step, .resources e⟩)

def Nameless (step : Step) : Prop :=
  ∃ reason, s.generatePod step = .error ⟨step.name, s.podName step, .image reason⟩

theorem resolves_iff :
    s.Resolves step source ↔ s.test ∉ reservedNames ∧ Text.trim step.image ≠ "" ∧
      s.config.images.classify step.image = source := by
  constructor
  · rintro ⟨hsource, hmade⟩
    -- The faults of the test's name and of the image come before the image is looked up.
    rcases s.generatePod_outcomes step with
      ⟨-, h⟩ | ⟨-, -, _, h⟩ | ⟨hreserved, hnamed, -⟩ | ⟨hreserved, hnamed, -⟩
    · rcases hmade with ⟨_, h', -⟩ | ⟨_, h'⟩ <;> cases h.symm.trans h'
    · rcases hmade with ⟨_, h', -⟩ | ⟨_, h'⟩ <;> cases h.symm.trans h'
    · exact ⟨hreserved, hnamed, hsource⟩
    · exact ⟨hreserved, hnamed, hsource⟩
  · rintro ⟨hreserved, hnamed, rfl⟩
    refine ⟨rfl, ?_⟩
    rcases s.generatePod_outcomes step with
      ⟨h, -⟩ | ⟨-, h, -⟩ | ⟨-, -, e, -, h⟩ | ⟨-, -, resources, -, h⟩
    · exact absurd h hreserved
    · exact absurd h hnamed
    · exact .inr ⟨e, h⟩
    · exact .inl ⟨_, h, rfl⟩

theorem nameless_iff :
    s.Nameless step ↔ s.test ∉ reservedNames ∧ Text.trim step.image = "" := by
  constructor
  · rintro ⟨reason, h⟩
    rcases s.generatePod_outcomes step with
      ⟨-, heq⟩ | ⟨hreserved, hblank, -⟩ | ⟨-, -, _, -, heq⟩ | ⟨-, -, _, -, heq⟩
    · cases heq.symm.trans h
    · exact ⟨hreserved, hblank⟩
    · cases heq.symm.trans h
    · cases heq.symm.trans h
  · rintro ⟨hreserved, hblank⟩
    rcases s.generatePod_outcomes step with
      ⟨h, -⟩ | ⟨-, -, reason, h⟩ | ⟨-, h, -⟩ | ⟨-, h, -⟩
    · exact absurd h hreserved
    · exact ⟨reason, h⟩
    · exact absurd hblank h
    · exact absurd hblank h

theorem resolves_or_rejected (step : Step) :
    s.Resolves step (s.config.images.classify step.image) ∨ s.Nameless step ∨
      s.test ∈ reservedNames := by
  by_cases hreserved : s.test ∈ reservedNames
  · exact .inr (.inr hreserved)
  · by_cases hblank : Text.trim step.image = ""
    · exact .inr (.inl (s.nameless_iff.mpr ⟨hreserved, hblank⟩))
    · exact .inl (s.resolves_iff.mpr ⟨hreserved, hblank, rfl⟩)

theorem image_ne_of_resolves (h : s.Resolves step source) : step.image ≠ "" := by
  intro hempty
  obtain ⟨-, hnamed, -⟩ := s.resolves_iff.mp h
  rw [hempty] at hnamed
  exact hnamed rfl

end Synthesizer

namespace Definition

variable (d : Definition) (c : Config) {link : StepLink}

theorem mem_imageSources_iff {source : ImageSource} :
    source ∈ d.imageSources c ↔
      ∃ step ∈ d.allSteps, step.image ≠ "" ∧ c.images.classify step.image = source := by
  simp [imageSources, and_assoc]

theorem mem_pipelineTags_iff {tag : String} :
    tag ∈ (d.pipelineTags c).toList ↔ .pipeline tag ∈ d.imageSources c := by
  rw [pipelineTags, TextSet.mem_toList_ofList, List.mem_filterMap]
  constructor
  · rintro ⟨source, hsource, htag⟩
    cases source with
    | pipeline name =>
      cases htag
      exact hsource
    | build name => cases htag
    | release name => cases htag
  · intro h
    exact ⟨.pipeline tag, h, rfl⟩

theorem usesBuilt_iff : d.usesBuilt c ↔ ∃ name, .build name ∈ d.imageSources c := by
  rw [usesBuilt, List.any_eq_true]
  constructor
  · rintro ⟨source, hsource, hbuilt⟩
    cases source with
    | pipeline name => cases hbuilt
    | build name => exact ⟨name, hsource⟩
    | release name => cases hbuilt
  · rintro ⟨name, h⟩
    exact ⟨.build name, h, rfl⟩

theorem usesRelease_iff : d.usesRelease c ↔ ∃ name, .release name ∈ d.imageSources c := by
  rw [usesRelease, List.any_eq_true]
  constructor
  · rintro ⟨source, hsource, hreleased⟩
    cases source with
    | pipeline name => cases hreleased
    | build name => cases hreleased
    | release name => exact ⟨name, hsource⟩
  · rintro ⟨name, h⟩
    exact ⟨.release name, h, rfl⟩

theorem mem_imageLinks_iff :
    link ∈ d.imageLinks c ↔ ∃ source ∈ d.imageSources c, link = source.link c.imageStream := by
  simp only [imageLinks, List.mem_append, List.mem_map, List.mem_ite_nil_right,
    List.mem_singleton, mem_pipelineTags_iff, usesBuilt_iff, usesRelease_iff]
  constructor
  · rintro ((⟨tag, htag, rfl⟩ | ⟨⟨name, hname⟩, rfl⟩) | ⟨⟨name, hname⟩, rfl⟩)
    · exact ⟨.pipeline tag, htag, rfl⟩
    · exact ⟨.build name, hname, rfl⟩
    · exact ⟨.release name, hname, rfl⟩
  · rintro ⟨source, hsource, rfl⟩
    cases source with
    | pipeline tag => exact .inl (.inl ⟨tag, hsource, rfl⟩)
    | build name => exact .inl (.inr ⟨⟨name, hsource⟩, rfl⟩)
    | release name => exact .inr ⟨⟨name, hsource⟩, rfl⟩

theorem mem_requires_cases (links : String → List StepLink) :
    link ∈ d.requires c links ↔ link ∈ d.imageLinks c ∨ (d.profile.isSome ∧
      (link ∈ links initialReleaseParameter ∨ link ∈ links latestReleaseParameter)) := by
  simp [requires]

/-- The links of a test are those of the images that are looked up for its pods, those of images
that are not, since the name of the test is reserved or since they are white space but not empty,
and with a profile those of the two releases. So it is for pods of any job and profile that share
the configuration. -/
theorem mem_requires_iff (s : Synthesizer) (links : String → List StepLink) :
    link ∈ d.requires s.config links ↔
      (∃ step ∈ d.allSteps, ∃ source, s.Resolves step source ∧
        link = source.link s.config.imageStream) ∨
      (∃ step ∈ d.allSteps, step.image ≠ "" ∧ (s.Nameless step ∨ s.test ∈ reservedNames) ∧
        link = (s.config.images.classify step.image).link s.config.imageStream) ∨
      (d.profile.isSome ∧
        (link ∈ links initialReleaseParameter ∨ link ∈ links latestReleaseParameter)) := by
  rw [mem_requires_cases, mem_imageLinks_iff, ← or_assoc]
  refine or_congr_left ⟨?_, ?_⟩
  · rintro ⟨source, hsource, rfl⟩
    obtain ⟨step, hstep, hnamed, rfl⟩ := (d.mem_imageSources_iff s.config).mp hsource
    rcases s.resolves_or_rejected step with hresolves | hrejected
    · exact .inl ⟨step, hstep, _, hresolves, rfl⟩
    · exact .inr ⟨step, hstep, hnamed, hrejected, rfl⟩
  · rintro (⟨step, hstep, source, hresolves, rfl⟩ | ⟨step, hstep, hnamed, -, rfl⟩)
    · refine ⟨source, (d.mem_imageSources_iff s.config).mpr ⟨step, hstep, ?_, hresolves.1⟩, rfl⟩
      exact s.image_ne_of_resolves hresolves
    · exact ⟨_, (d.mem_imageSources_iff s.config).mpr ⟨step, hstep, hnamed, rfl⟩, rfl⟩

end Definition

namespace Rehearsal

def blankImage : Definition :=
  { Definition.ofName "e2e" with test := [.ofCommands "a" " " "true"] }

def blankSynthesizer : Synthesizer := ⟨"e2e", .standard, ⟨"ci", "nightly", "", "", none⟩, none⟩

end Rehearsal

namespace Definition

open Rehearsal (blankImage blankSynthesizer)

/-- It is not so that a link of a test without a profile is always that of an image that is looked
up for one of its pods, even if its name is not reserved. -/
theorem not_forall_mem_requires :
    ¬ ∀ (d : Definition) (s : Synthesizer) (links : String → List StepLink) (link : StepLink),
      s.test = d.name → s.test ∉ reservedNames → d.profile = none →
      (link ∈ d.requires s.config links ↔ ∃ step ∈ d.allSteps, ∃ source,
        s.Resolves step source ∧ link = source.link s.config.imageStream) := by
  intro hall
  have hasked : StepLink.releaseImages ∈ blankImage.requires blankSynthesizer.config fun _ => [] := by
    decide
  obtain ⟨step, hstep, source, hresolves, -⟩ :=
    (hall blankImage blankSynthesizer _ _ rfl (by decide) rfl).mp hasked
  obtain rfl : step = .ofCommands "a" " " "true" := List.mem_singleton.mp hstep
  obtain ⟨-, hnamed, -⟩ := blankSynthesizer.resolves_iff.mp hresolves
  exact hnamed (by decide)

end Definition

end StagedTests
