import StagedTests.Config
import StagedTests.Proofs.Json.Record
import StagedTests.Proofs.Resource.Request

/-!
# Presets in configurations

A document without a section of presets leaves the standard ones as they are. A section that it has
takes their place: what it does not define is unknown, whether or not there is a standard preset of
that name.
-/

namespace StagedTests.Config

open Json (Decoder Fields Origin Source)

def presetsIn (text : String) : Option Source :=
  (Json.Document.ofText text).value.field? 6 "resource_presets"

def presetIn (text name : String) : Option Source :=
  (presetsIn text).bind (·.named? name)

theorem presets_took {origin : Origin} {s : Source} {c : Config} (h : decoder origin s = .ok c) :
    Fields.Took Presets.decoder (.ok .standard) origin (s.field? 6 "resource_presets")
      c.presets := by
  obtain ⟨stop, find, hbuild, hfind⟩ := Fields.build_of_decoder h (by decide)
  obtain ⟨f, presets, hf, htook, rfl⟩ := Fields.andThen_build hbuild
  -- The presets are the last field, so what stands before it is a function of them.
  have hpresets : (f presets).presets = presets := by
    refine Fields.Yields.andAny (P := fun f => ∀ x, (f x).presets = x) ?_ _ _
      origin stop find f hf presets
    refine .andAny (.andAny (.andAny (.andAny (.andAny ?_ _ _) _ _) _ _) _ _) _ _
    exact .nil fun _ _ _ _ _ _ _ => rfl
  rw [hpresets, ← hfind 6 _ rfl]
  exact htook

variable {text : String} {c : Config}

theorem presetsIn_took (h : ofText text = .ok c) :
    Fields.Took Presets.decoder (.ok .standard) .text (presetsIn text) c.presets :=
  presets_took (Json.decoder_of_decodeText h)

theorem presets_of_absent (h : ofText text = .ok c) (habsent : presetsIn text = none) :
    c.presets = .standard := by
  have htook := presetsIn_took h
  rw [habsent] at htook
  exact (Except.ok.inj htook).symm

theorem presetIn_rel (h : ofText text = .ok c) (hgiven : presetsIn text ≠ none) (name : String) :
    Option.Rel (fun source entry => ResourceRequest.decoder .text source = .ok entry)
      (presetIn text name) (c.presets.get? name) := by
  have htook := presetsIn_took h
  obtain ⟨source, hsource⟩ := Option.ne_none_iff_exists'.mp hgiven
  rw [hsource] at htook
  obtain ⟨t, ht, hpresets⟩ := Json.map_ok htook
  rw [presetIn, hsource, ← hpresets]
  exact Decoder.table_get? ht name

theorem presetsIn_ne_none {name : String} {source : Source} (h : presetIn text name = some source) :
    presetsIn text ≠ none := by
  intro habsent
  rw [presetIn, habsent] at h
  cases h

theorem get?_of_presetIn (h : ofText text = .ok c) {name : String} {source : Source}
    (hsource : presetIn text name = some source) :
    ∃ entry, ResourceRequest.decoder .text source = .ok entry ∧ c.presets.get? name = some entry := by
  have hrel := presetIn_rel h (presetsIn_ne_none hsource) name
  rw [hsource] at hrel
  generalize c.presets.get? name = found at hrel
  cases hrel with
  | some hread => exact ⟨_, hread, rfl⟩

theorem get?_of_undefined (h : ofText text = .ok c) (hgiven : presetsIn text ≠ none) {name : String}
    (hname : presetIn text name = none) : c.presets.get? name = none := by
  have hrel := presetIn_rel h hgiven name
  rw [hname] at hrel
  generalize c.presets.get? name = found at hrel ⊢
  cases hrel
  rfl

/-- What a document makes of the presets. -/
structure Loads (text : String) (c : Config) : Prop where
  /-- Without a section of presets every request comes to what it does by the standard ones. -/
  untouched : presetsIn text = none →
    ∀ r, c.presets.requirements r = Presets.standard.requirements r
  defined : ∀ name source, presetIn text name = some source →
    ∃ entry, ResourceRequest.decoder .text source = .ok entry ∧ c.presets.get? name = some entry
  /-- With one, a request for what it does not define is refused, even if that is a standard
  preset. -/
  replaced : presetsIn text ≠ none → ∀ name, presetIn text name = none →
    ∀ r, r.preset = some name → c.presets.requirements r = .error (.unknownPreset name)

theorem ofText_loads (h : ofText text = .ok c) : Loads text c := by
  constructor
  · intro habsent r
    rw [presets_of_absent h habsent]
  · intro name source hsource
    exact get?_of_presetIn h hsource
  · intro hgiven name hname r hr
    exact c.presets.requirements_of_unknown r hr (get?_of_undefined h hgiven hname)

def gpuText : String :=
  "\x7b\"resource_presets\":\x7b\"gpu\":\x7b\"limits\":\x7b\"nvidia.com/gpu\":\"1\"\x7d\x7d\x7d\x7d"

def gpuConfig : Config :=
  { standard with
    presets := Presets.empty.withPreset "gpu" (ResourceRequest.empty.withLimit "nvidia.com/gpu" "1") }

theorem ofText_gpuText : ofText gpuText = .ok gpuConfig := by
  decide +kernel

theorem presetIn_gpuText_small : presetIn gpuText "small" = none :=
  Option.isNone_iff_eq_none.mp (by decide +kernel)

theorem ofText_loads_gpu : ofText gpuText = .ok gpuConfig ∧ presetsIn gpuText ≠ none ∧
    (∃ source, presetIn gpuText "gpu" = some source ∧ ∃ entry,
      ResourceRequest.decoder .text source = .ok entry ∧ gpuConfig.presets.get? "gpu" = some entry) ∧
    gpuConfig.presets.requirements (.ofPreset "small") = .error (.unknownPreset "small") := by
  have hloads := ofText_loads ofText_gpuText
  have hdefined : (presetIn gpuText "gpu").isSome := by decide +kernel
  obtain ⟨source, hsource⟩ := Option.isSome_iff_exists.mp hdefined
  have hgiven := presetsIn_ne_none hsource
  refine ⟨ofText_gpuText, hgiven, ⟨source, hsource, hloads.defined "gpu" source hsource⟩, ?_⟩
  exact hloads.replaced hgiven "small" presetIn_gpuText_small _ rfl

/-- The standard presets do not stay beside those of a document. -/
theorem not_forall_ofText_keeps : ¬ ∀ text c, ofText text = .ok c →
    (∀ name, Presets.standard.get? name ≠ none → presetIn text name = none →
      ∀ r, r.preset = some name →
        c.presets.requirements r = Presets.standard.requirements r) ∧
    ∀ name source, presetIn text name = some source →
      ∃ entry, ResourceRequest.decoder .text source = .ok entry ∧
        c.presets.get? name = some entry := by
  intro h
  have hkept := (h gpuText gpuConfig ofText_gpuText).1
  have hsmall := hkept "small" (by decide) presetIn_gpuText_small (.ofPreset "small") rfl
  exact absurd hsmall (by decide +kernel)

end StagedTests.Config
