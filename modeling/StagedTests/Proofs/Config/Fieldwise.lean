import StagedTests.Proofs.Config
import StagedTests.Proofs.Json.Members

/-!
# Configurations field by field

Each setting has its value from the member of its name alone, or from the standard configuration
where there is no such member. So a document that is one object is accepted if the members of all
settings are, each by itself, and nothing else in it changes a setting.
-/

namespace StagedTests

open Json (Decoder Fields Origin Problem Source)

/-! ## The decoders of the sections -/

theorem ResourceRequest.decoder_blind : ResourceRequest.decoder.Blind :=
  ((((Fields.nil_blind _).andThen Decoder.string_blind.nullable _ _ _).andThen
    Decoder.string_blind.table _ _ _).andThen Decoder.string_blind.table _ _ _).decoder _

theorem PipelineImages.decoder_blind : PipelineImages.decoder.Blind :=
  (((Fields.nil_blind _).andThen Decoder.textSet_blind _ _ _).andThen Decoder.textSet_blind _ _
    _).decoder _

theorem Presets.decoder_blind : Presets.decoder.Blind :=
  ResourceRequest.decoder_blind.table.map _

theorem ResourceRequest.decoder_thorough : ResourceRequest.decoder.Thorough :=
  ((((Fields.nil_thorough _).andThen Decoder.string_thorough.nullable _ _ _).andThen
    Decoder.string_thorough.table _ _ _).andThen Decoder.string_thorough.table _ _ _).decoder _

theorem PipelineImages.decoder_thorough : PipelineImages.decoder.Thorough :=
  (((Fields.nil_thorough _).andThen Decoder.textSet_thorough _ _ _).andThen
    Decoder.textSet_thorough _ _ _).decoder _

theorem Presets.decoder_thorough : Presets.decoder.Thorough :=
  ResourceRequest.decoder_thorough.table.map _

/-! ## Configurations -/

namespace Config

/-- A setting: the name of its member, what that is read by, and its place in a configuration. -/
structure Setting where
  {α : Type}
  name : String
  decoder : Decoder α
  get : Config → α

def settings : List Setting :=
  [⟨"poll_interval_ms", .unsigned64, pollInterval⟩,
    ⟨"secret_wrapper_image", .string, secretWrapperImage⟩,
    ⟨"artifacts_image", .string, artifactsImage⟩,
    ⟨"pipeline_image_stream", .string, imageStream⟩,
    ⟨"artifact_dir", Decoder.path.nullable, artifactDir⟩,
    ⟨"images", PipelineImages.decoder, images⟩,
    ⟨"resource_presets", Presets.decoder, presets⟩]

theorem decoder_blind : decoder.Blind :=
  ((((((((Fields.nil_blind _).andThen Decoder.unsigned64_blind _ _ _).andThen
    Decoder.string_blind _ _ _).andThen Decoder.string_blind _ _ _).andThen
    Decoder.string_blind _ _ _).andThen Decoder.path_blind.nullable _ _ _).andThen
    PipelineImages.decoder_blind _ _ _).andThen Presets.decoder_blind _ _ _).decoder _

theorem fields_thorough : fields.Thorough :=
  (((((((Fields.nil_thorough _).andThen Decoder.unsigned64_thorough _ _ _).andThen
    Decoder.string_thorough _ _ _).andThen Decoder.string_thorough _ _ _).andThen
    Decoder.string_thorough _ _ _).andThen Decoder.path_thorough.nullable _ _ _).andThen
    PipelineImages.decoder_thorough _ _ _).andThen Presets.decoder_thorough _ _ _

theorem fields_checked : fields.Checked :=
  (((((((Fields.nil_checked _).andThen _ _ _ _).andThen _ _ _ _).andThen _ _ _ _).andThen
    _ _ _ _).andThen _ _ _ _).andThen _ _ _ _).andThen _ _ _ _

theorem settings_nodup : (settings.map (·.name)).Nodup := by
  decide

theorem isSome_find?_settings : ∀ x ∈ settings, (fields.find? x.name).isSome := by
  decide

/-- The setting has its value from what is found under its name, or it is the standard one. -/
def Setting.TakenFrom (x : Setting) (origin : Origin) (find : String → Option Source)
    (c : Config) : Prop :=
  Fields.Took x.decoder (.ok (x.get standard)) origin (find x.name) (x.get c)

/-- A configuration is built if each of its settings is taken from what is found. -/
theorem build_fields_iff (origin : Origin) (stop : Nat) (find : String → Option Source)
    (c : Config) :
    fields.build origin stop find = .ok c ↔ ∀ x ∈ settings, x.TakenFrom origin find c := by
  simp only [fields, Fields.defaulted, Fields.optional, Fields.andThen_build_iff, settings,
    List.forall_mem_cons]
  constructor
  · rintro ⟨_, _, h₆, presets, rfl⟩
    obtain ⟨_, _, h₅, images, rfl⟩ := h₆
    obtain ⟨_, _, h₄, dir, rfl⟩ := h₅
    obtain ⟨_, _, h₃, stream, rfl⟩ := h₄
    obtain ⟨_, _, h₂, artifacts, rfl⟩ := h₃
    obtain ⟨_, _, h₁, wrapper, rfl⟩ := h₂
    obtain ⟨_, _, hnil, poll, rfl⟩ := h₁
    cases hnil
    exact ⟨poll, wrapper, artifacts, stream, dir, images, presets, fun _ h => nomatch h⟩
  · rintro ⟨poll, wrapper, artifacts, stream, dir, images, presets, -⟩
    exact ⟨_, _, ⟨_, _, ⟨_, _, ⟨_, _, ⟨_, _, ⟨_, _, ⟨_, _, rfl, poll, rfl⟩, wrapper, rfl⟩,
      artifacts, rfl⟩, stream, rfl⟩, dir, rfl⟩, images, rfl⟩, presets, rfl⟩

def Setting.Accepts (x : Setting) (s : Source) : Prop := ∃ v, x.decoder .text s = .ok v

section

variable {text : String} {members : List (String × Source)}
  (hmembers : Json.membersIn text = some members) (hnodup : (members.map (·.1)).Nodup)
include hmembers hnodup

/-- A document gives a configuration if each setting of it is what the member of its name is read
as, or the standard one where there is none. -/
theorem ofText_eq_ok_iff (c : Config) :
    ofText text = .ok c ↔ ∀ x ∈ settings, x.TakenFrom .text (Fields.lookUp members) c := by
  have hskip := Json.skip_of_membersIn hmembers
  rw [ofText, Json.decodeText_eq_ok_iff decoder_blind hmembers, decoder,
    Fields.decoder_named_iff fields_checked _ _ hnodup hskip, build_fields_iff]
  refine forall₂_congr fun x hx => ?_
  rw [Setting.TakenFrom, Fields.lookUp_relevant (isSome_find?_settings x hx)]
  rfl

theorem get_of_mem {c : Config} (h : ofText text = .ok c) {x : Setting} (hx : x ∈ settings)
    {s : Source} (hs : (x.name, s) ∈ members) : x.decoder .text s = .ok (x.get c) := by
  have htook := (ofText_eq_ok_iff hmembers hnodup c).mp h x hx
  rwa [Setting.TakenFrom, (Fields.mem_iff_lookUp hnodup).mp hs] at htook

theorem get_of_absent {c : Config} (h : ofText text = .ok c) {x : Setting} (hx : x ∈ settings)
    (hs : x.name ∉ members.map (·.1)) : x.get c = x.get standard := by
  have htook := (ofText_eq_ok_iff hmembers hnodup c).mp h x hx
  rw [Setting.TakenFrom, Fields.lookUp_eq_none_iff.mpr hs] at htook
  exact (Except.ok.inj htook).symm

theorem ofText_accepted_iff : (∃ c, ofText text = .ok c) ↔
    ∀ x ∈ settings, ∀ s, (x.name, s) ∈ members → x.Accepts s := by
  constructor
  · rintro ⟨c, hc⟩ x hx s hs
    exact ⟨x.get c, get_of_mem hmembers hnodup hc hx hs⟩
  · intro h
    have htook : ∀ x ∈ settings, ∃ v, Fields.Took x.decoder (.ok (x.get standard)) .text
        (Fields.lookUp members x.name) v := by
      intro x hx
      cases hs : Fields.lookUp members x.name with
      | none => exact ⟨x.get standard, rfl⟩
      | some s => exact h x hx s (Fields.mem_of_lookUp hs)
    simp only [settings, List.forall_mem_cons] at htook
    obtain ⟨⟨poll, h₁⟩, ⟨wrapper, h₂⟩, ⟨artifacts, h₃⟩, ⟨stream, h₄⟩, ⟨dir, h₅⟩, ⟨images, h₆⟩,
      ⟨presets, h₇⟩, -⟩ := htook
    refine ⟨⟨poll, wrapper, artifacts, stream, dir, images, presets⟩, ?_⟩
    rw [ofText_eq_ok_iff hmembers hnodup]
    simp only [settings, List.forall_mem_cons]
    exact ⟨h₁, h₂, h₃, h₄, h₅, h₆, h₇, fun _ h => nomatch h⟩

end

/-- What a document with these members is read as. -/
structure Fieldwise (text : String) (members : List (String × Source)) : Prop where
  accepted_iff : (∃ c, ofText text = .ok c) ↔
    ∀ x ∈ settings, ∀ s, (x.name, s) ∈ members → x.Accepts s
  given : ∀ c, ofText text = .ok c → ∀ x ∈ settings, ∀ s, (x.name, s) ∈ members →
    x.decoder .text s = .ok (x.get c)
  absent : ∀ c, ofText text = .ok c → ∀ x ∈ settings, x.name ∉ members.map (·.1) →
    x.get c = x.get standard
  /-- A member is acceptable if a document of this member alone is. -/
  alone : ∀ x ∈ settings, ∀ s, (x.name, s) ∈ members → ∀ only,
    Json.membersIn only = some [(x.name, s)] → ((∃ c, ofText only = .ok c) ↔ x.Accepts s)
  /-- Whatever else is removed, added or moved, a setting stays what it is. -/
  kept : ∀ other members', Json.membersIn other = some members' → (members'.map (·.1)).Nodup →
    ∀ c c', ofText text = .ok c → ofText other = .ok c' → ∀ x ∈ settings,
      (∀ s, (x.name, s) ∈ members' ↔ (x.name, s) ∈ members) → x.get c' = x.get c
  /-- A document that leaves out some of the settings' members is accepted as well, whatever
  members that are no settings it has. -/
  removed : ∀ other members', Json.membersIn other = some members' → (members'.map (·.1)).Nodup →
    (∀ x ∈ settings, ∀ s, (x.name, s) ∈ members' → (x.name, s) ∈ members) →
    (∃ c, ofText text = .ok c) → ∃ c, ofText other = .ok c

theorem fieldwise_of_membersIn {text : String} {members : List (String × Source)}
    (hmembers : Json.membersIn text = some members) (hnodup : (members.map (·.1)).Nodup) :
    Fieldwise text members where
  accepted_iff := ofText_accepted_iff hmembers hnodup
  given := fun _ hc _ hx _ hs => get_of_mem hmembers hnodup hc hx hs
  absent := fun _ hc _ hx hs => get_of_absent hmembers hnodup hc hx hs
  alone := by
    intro x hx s hs only honly
    rw [ofText_accepted_iff honly (List.nodup_singleton _)]
    constructor
    · exact fun h => h x hx s List.mem_cons_self
    · intro h y hy s' hs'
      obtain ⟨hname, rfl⟩ := Prod.mk.inj (List.mem_singleton.mp hs')
      rwa [List.inj_on_of_nodup_map settings_nodup hy hx hname]
  kept := by
    intro other members' hmembers' hnodup' c c' hc hc' x hx hsame
    have hlookUp : Fields.lookUp members' x.name = Fields.lookUp members x.name := by
      refine Option.ext fun s => ?_
      rw [← Fields.mem_iff_lookUp hnodup', ← Fields.mem_iff_lookUp hnodup, hsame s]
    have htook := (ofText_eq_ok_iff hmembers hnodup c).mp hc x hx
    have htook' := (ofText_eq_ok_iff hmembers' hnodup' c').mp hc' x hx
    rw [Setting.TakenFrom, hlookUp] at htook'
    exact htook'.unique htook
  removed := by
    intro other members' hmembers' hnodup' hsub haccepted
    rw [ofText_accepted_iff hmembers hnodup] at haccepted
    rw [ofText_accepted_iff hmembers' hnodup']
    exact fun x hx s hs => haccepted x hx s (hsub x hx s hs)

/-- An object that is accepted has members that can be told, and every object whose members have
names of their own is read field by field. -/
theorem ofText_fieldwise (text : String) :
    (∀ c, ofText text = .ok c → Json.isObject text = true →
      ∃ members, Json.membersIn text = some members) ∧
    ∀ members, Json.membersIn text = some members → (members.map (·.1)).Nodup →
      Fieldwise text members :=
  ⟨fun _ hc hobject => Option.isSome_iff_exists.mp (fields_thorough.isSome_membersIn hc hobject),
    fun _ hmembers hnodup => fieldwise_of_membersIn hmembers hnodup⟩

def mixedText : String :=
  "\x7b\"x\":[1e999],\"images\":\x7b\"built\":[\"tests\"]\x7d,\"poll_interval_ms\":50,\"y\":null\x7d"

theorem ofText_fieldwise_mixed : ∃ members, Json.membersIn mixedText = some members ∧
    (members.map (·.1)).Nodup ∧ Fieldwise mixedText members ∧
    ofText mixedText = .ok
      { standard with pollInterval := 50, images := PipelineImages.withBuilt ⟨∅, ∅⟩ "tests" } := by
  have hnames : (Json.membersIn mixedText).map (·.map (·.1)) =
      some ["x", "images", "poll_interval_ms", "y"] := by decide +kernel
  obtain ⟨members, hmembers, hnames⟩ := Option.map_eq_some_iff.mp hnames
  have hnodup : (members.map (·.1)).Nodup := by
    rw [hnames]
    decide
  exact ⟨members, hmembers, hnodup, (ofText_fieldwise mixedText).2 members hmembers hnodup,
    by decide +kernel⟩

end Config

end StagedTests
