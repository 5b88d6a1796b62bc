import StagedTests.Proofs.Parameter
import StagedTests.Proofs.Requirement
import StagedTests.Proofs.Text.ByteOrder
import StagedTests.Run.Test

/-!
# What a test requires

The links of a test depend on its steps by the set of images alone that they name, and they have a
fixed order: tags of the pipeline's stream, the two kinds of other images, parameters. Asking for
deferred parameters does not change them.
-/

namespace StagedTests

theorem TextSet.ext_mem {s t : TextSet} (h : ∀ k, k ∈ s.toList ↔ k ∈ t.toList) : s = t := by
  apply Table.ext_get?
  intro k
  have hk := h k
  rw [TextSet.toList, TextSet.toList, ← Table.contains_iff, ← Table.contains_iff, Table.contains,
    Table.contains] at hk
  cases hs : s.get? k <;> cases ht : t.get? k <;> simp_all

namespace Definition

variable (d : Definition) (c : Config)

def Names (image : String) : Prop := image ≠ "" ∧ ∃ step ∈ d.allSteps, step.image = image

theorem mem_imageSources_iff_names {source : ImageSource} :
    source ∈ d.imageSources c ↔ ∃ image, d.Names image ∧ c.images.classify image = source := by
  rw [mem_imageSources_iff]
  constructor
  · rintro ⟨step, hstep, hnamed, hsource⟩
    exact ⟨step.image, ⟨hnamed, step, hstep, rfl⟩, hsource⟩
  · rintro ⟨_, ⟨hnamed, step, hstep, rfl⟩, hsource⟩
    exact ⟨step, hstep, hnamed, hsource⟩

/-- The links of images depend on the names of images only. -/
theorem imageLinks_congr {d d' : Definition} (h : ∀ image, d.Names image ↔ d'.Names image) :
    d.imageLinks c = d'.imageLinks c := by
  have hsources : ∀ source, source ∈ d.imageSources c ↔ source ∈ d'.imageSources c := by
    intro source
    simp only [mem_imageSources_iff_names, h]
  have htags : d.pipelineTags c = d'.pipelineTags c := by
    apply TextSet.ext_mem
    intro tag
    rw [mem_pipelineTags_iff, mem_pipelineTags_iff, hsources]
  have hbuilt : d.usesBuilt c = d'.usesBuilt c := by
    rw [Bool.eq_iff_iff, usesBuilt_iff, usesBuilt_iff]
    simp only [hsources]
  have hrelease : d.usesRelease c = d'.usesRelease c := by
    rw [Bool.eq_iff_iff, usesRelease_iff, usesRelease_iff]
    simp only [hsources]
  rw [imageLinks, imageLinks, htags, hbuilt, hrelease]

/-- The tags of the pipeline's stream and the links of other images, in their order. -/
structure Arranged (tags : List String) (others : List StepLink) : Prop where
  increasing : tags.Pairwise fun a b => Text.bytes a < Text.bytes b
  mem_tags : ∀ tag, tag ∈ tags ↔ ∃ image, d.Names image ∧ c.images.classify image = .pipeline tag
  sublist : others.Sublist [.imagesReady, .releaseImages]
  built : .imagesReady ∈ others ↔
    ∃ image name, d.Names image ∧ c.images.classify image = .build name
  released : .releaseImages ∈ others ↔
    ∃ image name, d.Names image ∧ c.images.classify image = .release name

theorem imageLinks_arranged :
    ∃ tags others, d.Arranged c tags others ∧
      d.imageLinks c = tags.map (.internalImage c.imageStream) ++ others := by
  refine ⟨(d.pipelineTags c).toList, (if d.usesBuilt c then [.imagesReady] else []) ++
    (if d.usesRelease c then [.releaseImages] else []), ⟨?_, ?_, ?_, ?_, ?_⟩, ?_⟩
  · exact (TextSet.toList_sorted _).imp fun h => Text.bytes_lt h
  · intro tag
    rw [mem_pipelineTags_iff, mem_imageSources_iff_names]
  · cases d.usesBuilt c <;> cases d.usesRelease c <;> decide
  · have hmem : StepLink.imagesReady ∈ (if d.usesBuilt c then [StepLink.imagesReady] else []) ++
        (if d.usesRelease c then [.releaseImages] else []) ↔ d.usesBuilt c = true := by
      cases d.usesBuilt c <;> cases d.usesRelease c <;> decide
    rw [hmem, usesBuilt_iff]
    simp only [mem_imageSources_iff_names]
    exact exists_comm
  · have hmem : StepLink.releaseImages ∈ (if d.usesBuilt c then [StepLink.imagesReady] else []) ++
        (if d.usesRelease c then [.releaseImages] else []) ↔ d.usesRelease c = true := by
      cases d.usesBuilt c <;> cases d.usesRelease c <;> decide
    rw [hmem, usesRelease_iff]
    simp only [mem_imageSources_iff_names]
    exact exists_comm
  · rw [imageLinks, List.append_assoc]

end Definition

namespace StagedTest

variable {σ τ : Type}

def parameterLinks (t : StagedTest) (params : Parameters σ) (s : σ) : List StepLink :=
  if t.definition.profile.isSome then
    params.links initialReleaseParameter s ++ params.links latestReleaseParameter s
  else []

theorem requires_eq (t : StagedTest) (params : Parameters σ) (s : σ) :
    t.requires params s = t.definition.imageLinks t.config ++ t.parameterLinks params s :=
  rfl

theorem parameterLinks_congr {t t' : StagedTest} {params : Parameters σ} {params' : Parameters τ}
    {s : σ} {s' : τ} (hprofile : t.definition.profile = t'.definition.profile)
    (hlinks : ∀ name, params.links name s = params'.links name s') :
    t.parameterLinks params s = t'.parameterLinks params' s' := by
  rw [parameterLinks, parameterLinks, hprofile, hlinks, hlinks]

theorem requires_askAll (t : StagedTest) (names : List String)
    (state : DeferredParameters σ × σ) :
    t.requires DeferredParameters.source (DeferredParameters.askAll names state) =
      t.requires DeferredParameters.source state := by
  have hkeeps := DeferredParameters.askAll_keeps names state
  rw [requires_eq, requires_eq]
  exact congrArg _ (parameterLinks_congr rfl hkeeps.links)

/-- Tests of one configuration and profile whose steps name the same images require the same links
of parameters that have the same links. The links stand in a fixed order, and asking for deferred
parameters leaves them alone. -/
theorem requires_settled (t t' : StagedTest) (params : Parameters σ) (s : σ)
    (params' : Parameters τ) (s' : τ) (hconfig : t.config = t'.config)
    (hprofile : t.definition.profile = t'.definition.profile)
    (hnames : ∀ image, t.definition.Names image ↔ t'.definition.Names image)
    (hlinks : ∀ name, params.links name s = params'.links name s') :
    t.requires params s = t'.requires params' s' ∧
      (∃ tags others, t.definition.Arranged t.config tags others ∧
        t.requires params s =
          tags.map (.internalImage t.config.imageStream) ++ others ++ t.parameterLinks params s) ∧
      ∀ {υ : Type} (state : DeferredParameters υ × υ) (names : List String),
        t.requires DeferredParameters.source (DeferredParameters.askAll names state) =
          t.requires DeferredParameters.source state := by
  refine ⟨?_, ?_, ?_⟩
  · rw [requires_eq, requires_eq, hconfig, Definition.imageLinks_congr t'.config hnames,
      parameterLinks_congr hprofile hlinks]
  · obtain ⟨tags, others, harranged, himages⟩ := t.definition.imageLinks_arranged t.config
    exact ⟨tags, others, harranged, by rw [requires_eq, himages]⟩
  · intro υ state names
    exact t.requires_askAll names state

/-- The same images in other phases, and a step that names none. -/
theorem requires_settled_moved :
    let step := Step.ofCommands "step"
    let payload : StepLink := .releasePayloadImage "initial"
    let t : StagedTest := ⟨⟨"e2e", some .aws, [step "src" ""], [step "installer" ""], []⟩,
      .standard, ⟨"ci", "e2e", "", "", none⟩, false, []⟩
    let t' : StagedTest := ⟨⟨"e2e", some .aws, [], [step "installer" "", step "" ""],
      [step "src" "", step "src" ""]⟩, .standard, ⟨"ci", "e2e", "", "", none⟩, false, []⟩
    let provider : Provider Unit := fun s => (.ok "quay.io/release:4.5", s)
    let params := DeferredParameters.empty.add initialReleaseParameter (some payload) provider
    let links : List StepLink := [.internalImage "pipeline" "src", .releaseImages, payload]
    t.requires DeferredParameters.source (params, ()) = links ∧
      t'.requires DeferredParameters.source (params, ()) = links ∧
      t'.requires DeferredParameters.source
        (DeferredParameters.askAll [initialReleaseParameter, "OTHER"] (params, ())) = links := by
  intro step payload t t' provider params links
  have hnames : ∀ image, t'.definition.Names image ↔ t.definition.Names image := by
    intro image
    simp only [t, t', step, Definition.Names, Definition.allSteps, Step.ofCommands]
    grind
  obtain ⟨hsame, -, hasked⟩ := requires_settled t' t DeferredParameters.source (params, ())
    DeferredParameters.source (params, ()) rfl rfl hnames fun _ => rfl
  have hlinks : t.requires DeferredParameters.source (params, ()) = links := by decide +kernel
  exact ⟨hlinks, hsame.trans hlinks, (hasked _ _).trans (hsame.trans hlinks)⟩

end StagedTest

end StagedTests
