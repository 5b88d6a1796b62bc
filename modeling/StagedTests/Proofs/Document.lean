import StagedTests.Config
import StagedTests.Container.Event
import StagedTests.Definition
import StagedTests.Job
import StagedTests.Proofs.Json.Decoding
import StagedTests.Proofs.Time.Rfc3339

/-!
# Documents

Each kind of document is read back from what is written for it. The lemmas on records are about
documents that give some of the fields, since what a writer leaves out is what the reader takes for
missing: a field without a value, or an empty table of amounts.
-/

namespace StagedTests

open Json (given orNull)
open Json.Decoder (string_reads path_reads list_reads table_reads texts_reads orNull_reads
  text?_reads)

theorem getD_map_some {α : Type} (o : Option α) : (o.map some).getD none = o := by
  cases o <;> rfl

/-! ## Resources -/

namespace ResourceRequest

/-- A document that may leave out any field. -/
def someJson (preset : Option (Option String)) (requests limits : Option (Table String)) : Json :=
  Json.objectOf [("preset", preset.map Json.text?), ("requests", requests.map (Json.ofTable .string)),
    ("limits", limits.map (Json.ofTable .string))]

theorem amounts_read (t : Table String) :
    (Json.Decoder.table .string).Reads (Json.ofTable .string t) t :=
  table_reads fun e _ => string_reads e.2

theorem someJson_reads (preset : Option (Option String)) (requests limits : Option (Table String)) :
    decoder.Reads (someJson preset requests limits)
      ⟨preset.getD none, requests.getD ∅, limits.getD ∅⟩ := by
  refine Json.Fields.Reads.decoder ?_ _ rfl (by simp)
  refine .orStandard ?_ (by simp [given]) fun t _ => amounts_read t
  refine .orStandard ?_ (by simp [given]) fun t _ => amounts_read t
  refine .orStandard ?_ (by simp [given]) fun o _ => text?_reads string_reads o
  exact Json.Fields.nil_reads _ _

def amounts? (t : Table String) : Option (Table String) :=
  if t.isEmpty then none else some t

theorem amounts?_getD (t : Table String) : (amounts? t).getD ∅ = t := by
  unfold amounts?
  split
  · next h => exact (Table.ext (List.isEmpty_iff.mp h)).symm
  · rfl

theorem toJson_eq (r : ResourceRequest) :
    r.toJson = someJson (r.preset.map some) (amounts? r.requests) (amounts? r.limits) := by
  have hamounts : ∀ t, amountsJson t = (amounts? t).map (Json.ofTable .string) := by
    intro t
    unfold amountsJson amounts?
    split <;> rfl
  simp only [toJson, someJson, hamounts, Option.map_map]
  rfl

theorem toJson_reads (r : ResourceRequest) : decoder.Reads r.toJson r := by
  have h := someJson_reads (r.preset.map some) (amounts? r.requests) (amounts? r.limits)
  rwa [← toJson_eq, amounts?_getD, amounts?_getD, getD_map_some] at h

@[simp] theorem someJson_isWhole (preset : Option (Option String))
    (requests limits : Option (Table String)) : (someJson preset requests limits).IsWhole := by
  simp [someJson]

@[simp] theorem toJson_isWhole (r : ResourceRequest) : r.toJson.IsWhole := by
  simp [toJson_eq]

end ResourceRequest

namespace Presets

theorem toJson_reads (p : Presets) : decoder.Reads p.toJson p :=
  (table_reads fun e _ => e.2.toJson_reads).map Presets.mk

@[simp] theorem toJson_isWhole (p : Presets) : p.toJson.IsWhole := by
  simp [toJson]

end Presets

/-! ## Images and links -/

namespace PipelineImages

/-- A document that may leave out any field, its names in any order. -/
def someJson (tags built : Option (List String)) : Json :=
  Json.objectOf [("pipeline", tags.map Json.texts), ("built", built.map Json.texts)]

theorem someJson_reads (tags built : Option (List String)) :
    decoder.Reads (someJson tags built)
      ⟨(tags.map TextSet.ofList).getD ∅, (built.map TextSet.ofList).getD ∅⟩ := by
  refine Json.Fields.Reads.decoder ?_ _ rfl (by simp)
  refine .orElse ?_ TextSet.ofList (by simp [given]) fun l _ => texts_reads l
  refine .orElse ?_ TextSet.ofList (by simp [given]) fun l _ => texts_reads l
  exact Json.Fields.nil_reads _ _

theorem toJson_reads (r : PipelineImages) : decoder.Reads r.toJson r := by
  have h := someJson_reads (some r.tags.toList) (some r.built.toList)
  simp only [Option.map_some, Option.getD_some, TextSet.ofList_toList] at h
  exact h

@[simp] theorem someJson_isWhole (tags built : Option (List String)) :
    (someJson tags built).IsWhole := by
  simp [someJson]

@[simp] theorem toJson_isWhole (r : PipelineImages) : r.toJson.IsWhole := by
  simp [toJson]

end PipelineImages

namespace StepLink

theorem toJson_reads (link : StepLink) : decoder.Reads link.toJson link := by
  cases link with
  | internalImage stream tag =>
    refine Json.Decoder.tagged_reads _ rfl (by simp) (by simp) ?_
    refine Json.Case.reads_of_fields (by simp [Json.Fields.required, Json.Fields.andThen]) ?_
    refine Json.Fields.Reads.decoder (l := [("stream", some (.string stream)),
      ("tag", some (.string tag))]) ?_ _ rfl (by simp)
    refine .written ?_ (by simp [given]) (string_reads tag)
    refine .written ?_ (by simp [given]) (string_reads stream)
    exact Json.Fields.nil_reads _ _
  | imagesReady =>
    exact Json.Decoder.tagged_reads _ rfl (by simp) (by simp) (Json.Case.reads_nil _ _ _ _)
  | releaseImages =>
    exact Json.Decoder.tagged_reads _ rfl (by simp) (by simp) (Json.Case.reads_nil _ _ _ _)
  | releasePayloadImage name =>
    refine Json.Decoder.tagged_reads _ rfl (by simp) (by simp) ?_
    refine Json.Case.reads_of_fields (by simp [Json.Fields.required, Json.Fields.andThen]) ?_
    refine Json.Fields.Reads.decoder (l := [("name", some (.string name))]) ?_ _ rfl (by simp)
    refine .written ?_ (by simp [given]) (string_reads name)
    exact Json.Fields.nil_reads _ _

theorem toJson_isWhole (link : StepLink) : link.toJson.IsWhole := by
  cases link <;> simp [toJson]

end StepLink

/-! ## Jobs -/

namespace Job

def someJson (inNamespace name : String) (buildId prowJobId : Option String) : Json :=
  Json.objectOf [("namespace", some (.string inNamespace)), ("job", some (.string name)),
    ("build_id", buildId.map .string), ("prow_job_id", prowJobId.map .string)]

theorem someJson_reads (inNamespace name : String) (buildId prowJobId : Option String) :
    decoder.Reads (someJson inNamespace name buildId prowJobId)
      ⟨inNamespace, name, buildId.getD "", prowJobId.getD "", none⟩ := by
  refine Json.Fields.Reads.decoder ?_ _ rfl (by simp)
  refine .orStandard (f := fun d => Job.mk inNamespace name (buildId.getD "") d none) ?_
    (by simp [given]) fun t _ => string_reads t
  refine .orStandard (f := fun c d => Job.mk inNamespace name c d none) ?_ (by simp [given])
    fun t _ => string_reads t
  refine .written (f := fun b c d => Job.mk inNamespace b c d none) ?_ (by simp [given])
    (string_reads name)
  refine .written (f := fun a b c d => Job.mk a b c d none) ?_ (by simp [given])
    (string_reads inNamespace)
  exact Json.Fields.nil_reads _ _

theorem toJson_reads {j : Job} (h : j.owner = none) : decoder.Reads j.toJson j := by
  obtain ⟨inNamespace, name, buildId, prowJobId, owner⟩ := j
  obtain rfl : owner = none := h
  exact someJson_reads inNamespace name (some buildId) (some prowJobId)

@[simp] theorem someJson_isWhole (inNamespace name : String) (buildId prowJobId : Option String) :
    (someJson inNamespace name buildId prowJobId).IsWhole := by
  simp [someJson]

theorem toJson_isWhole (j : Job) : j.toJson.IsWhole := by
  simp [toJson]

theorem decoder_yields : decoder.Yields fun j => j.owner = none := by
  refine Json.Fields.Yields.decoder ?_ _
  refine .andAny (.andAny (.andAny (.andAny ?_ _ _) _ _) _ _) _ _
  exact .nil fun _ _ _ _ => rfl

end Job

/-! ## Definitions -/

namespace Step

def someJson (name image commands : String) (resources : Option ResourceRequest)
    (artifactDir : Option (Option String)) : Json :=
  Json.objectOf [("as", some (.string name)), ("from", some (.string image)),
    ("commands", some (.string commands)), ("resources", resources.map ResourceRequest.toJson),
    ("artifact_dir", artifactDir.map Json.text?)]

theorem someJson_reads (name image commands : String) (resources : Option ResourceRequest)
    (artifactDir : Option (Option String)) :
    decoder.Reads (someJson name image commands resources artifactDir)
      ⟨name, image, commands, resources.getD .empty, artifactDir.getD none⟩ := by
  refine Json.Fields.Reads.decoder ?_ _ rfl (by simp)
  refine .orStandard ?_ (by simp [given]) fun o _ => text?_reads string_reads o
  refine .orStandard ?_ (by simp [given]) fun r _ => r.toJson_reads
  refine .written ?_ (by simp [given]) (string_reads commands)
  refine .written ?_ (by simp [given]) (string_reads image)
  refine .written ?_ (by simp [given]) (string_reads name)
  exact Json.Fields.nil_reads _ _

theorem toJson_eq (s : Step) :
    s.toJson = someJson s.name s.image s.commands (some s.resources) (s.artifactDir.map some) := by
  simp only [toJson, someJson, Option.map_map]
  rfl

theorem toJson_reads (s : Step) : decoder.Reads s.toJson s := by
  have h := someJson_reads s.name s.image s.commands (some s.resources) (s.artifactDir.map some)
  rwa [← toJson_eq, getD_map_some] at h

@[simp] theorem someJson_isWhole (name image commands : String) (resources : Option ResourceRequest)
    (artifactDir : Option (Option String)) :
    (someJson name image commands resources artifactDir).IsWhole := by
  simp [someJson]

@[simp] theorem toJson_isWhole (s : Step) : s.toJson.IsWhole := by
  simp [toJson_eq]

end Step

namespace ClusterProfile

theorem toJson_reads (p : ClusterProfile) : decoder.Reads p.toJson p := by
  refine Json.Decoder.enumeration_reads ?_
  cases p <;> rfl

@[simp] theorem toJson_isWhole (p : ClusterProfile) : p.toJson.IsWhole := trivial

end ClusterProfile

namespace Definition

/-- A document that may leave out any field but the name. -/
def someJson (name : String) (profile : Option (Option ClusterProfile))
    (pre test post : Option (List Step)) : Json :=
  Json.objectOf [("as", some (.string name)),
    ("cluster_profile", profile.map (orNull ClusterProfile.toJson)), ("pre", pre.map stepsJson),
    ("test", test.map stepsJson), ("post", post.map stepsJson)]

theorem stepsJson_reads (l : List Step) : (Json.Decoder.list Step.decoder).Reads (stepsJson l) l :=
  list_reads fun s _ => s.toJson_reads

theorem someJson_reads (name : String) (profile : Option (Option ClusterProfile))
    (pre test post : Option (List Step)) :
    decoder.Reads (someJson name profile pre test post)
      ⟨name, profile.getD none, pre.getD [], test.getD [], post.getD []⟩ := by
  refine Json.Fields.Reads.decoder ?_ _ rfl (by simp)
  refine .orStandard ?_ (by simp [given]) fun l _ => stepsJson_reads l
  refine .orStandard ?_ (by simp [given]) fun l _ => stepsJson_reads l
  refine .orStandard ?_ (by simp [given]) fun l _ => stepsJson_reads l
  refine .orStandard ?_ (by simp [given]) fun o _ => orNull_reads fun p _ =>
    ⟨by simp [ClusterProfile.toJson], p.toJson_reads⟩
  refine .written ?_ (by simp [given]) (string_reads name)
  exact Json.Fields.nil_reads _ _

theorem toJson_eq (d : Definition) :
    d.toJson = someJson d.name (d.profile.map some) (some d.pre) (some d.test) (some d.post) := by
  simp only [toJson, someJson, Option.map_map]
  rfl

theorem toJson_reads (d : Definition) : decoder.Reads d.toJson d := by
  have h := someJson_reads d.name (d.profile.map some) (some d.pre) (some d.test) (some d.post)
  rwa [← toJson_eq, getD_map_some] at h

@[simp] theorem someJson_isWhole (name : String) (profile : Option (Option ClusterProfile))
    (pre test post : Option (List Step)) : (someJson name profile pre test post).IsWhole := by
  simp [someJson, stepsJson]

theorem toJson_isWhole (d : Definition) : d.toJson.IsWhole := by
  simp [toJson_eq]

end Definition

/-! ## Configurations -/

namespace Config

def someJson (pollInterval : Option Nat) (secretWrapperImage artifactsImage imageStream : Option String)
    (artifactDir : Option (Option String)) (images : Option PipelineImages)
    (presets : Option Presets) : Json :=
  Json.objectOf [("poll_interval_ms", pollInterval.map .nat),
    ("secret_wrapper_image", secretWrapperImage.map .string),
    ("artifacts_image", artifactsImage.map .string),
    ("pipeline_image_stream", imageStream.map .string),
    ("artifact_dir", artifactDir.map Json.text?), ("images", images.map PipelineImages.toJson),
    ("resource_presets", presets.map Presets.toJson)]

variable (pollInterval : Option Nat)
  (secretWrapperImage artifactsImage imageStream : Option String)
  (artifactDir : Option (Option String)) (images : Option PipelineImages) (presets : Option Presets)

theorem someJson_reads (h : ∀ n ∈ pollInterval, n < 2 ^ 64) :
    decoder.Reads (someJson pollInterval secretWrapperImage artifactsImage imageStream artifactDir
        images presets)
      ⟨pollInterval.getD standard.pollInterval,
        secretWrapperImage.getD standard.secretWrapperImage,
        artifactsImage.getD standard.artifactsImage, imageStream.getD standard.imageStream,
        artifactDir.getD none, images.getD standard.images, presets.getD standard.presets⟩ := by
  refine Json.Fields.Reads.decoder ?_ _ rfl (by simp)
  refine .orStandard ?_ (by simp [given]) fun p _ => p.toJson_reads
  refine .orStandard ?_ (by simp [given]) fun r _ => r.toJson_reads
  refine .orStandard ?_ (by simp [given]) fun o _ => text?_reads path_reads o
  refine .orStandard ?_ (by simp [given]) fun t _ => string_reads t
  refine .orStandard ?_ (by simp [given]) fun t _ => string_reads t
  refine .orStandard ?_ (by simp [given]) fun t _ => string_reads t
  refine .orStandard ?_ (by simp [given]) fun n hn => Json.Decoder.unsigned64_reads (h n hn)
  exact Json.Fields.nil_reads _ _

theorem someJson_isWhole (h : ∀ n ∈ pollInterval, n < 2 ^ 64) :
    (someJson pollInterval secretWrapperImage artifactsImage imageStream artifactDir images
      presets).IsWhole := by
  have hpoll : ∀ n ∈ pollInterval, (Json.nat n).IsWhole := fun n hn => by
    have := h n hn
    exact ⟨by omega, by omega⟩
  simpa [someJson] using hpoll

theorem toJson_reads {c : Config} (h : c.pollInterval < 2 ^ 64) : decoder.Reads c.toJson c :=
  someJson_reads (some c.pollInterval) (some c.secretWrapperImage)
    (some c.artifactsImage) (some c.imageStream) (some c.artifactDir) (some c.images)
    (some c.presets) (by simpa using h)

theorem toJson_isWhole {c : Config} (h : c.pollInterval < 2 ^ 64) : c.toJson.IsWhole :=
  someJson_isWhole (some c.pollInterval) (some c.secretWrapperImage)
    (some c.artifactsImage) (some c.imageStream) (some c.artifactDir) (some c.images)
    (some c.presets) (by simpa using h)

theorem decoder_yields : decoder.Yields fun c => c.pollInterval < 2 ^ 64 := by
  refine Json.Fields.Yields.decoder ?_ _
  refine .andAny (.andAny (.andAny (.andAny (.andAny (.andAny ?_ _ _) _ _) _ _) _ _) _ _) _ _
  refine .andThen ?_ _ _ Json.Decoder.unsigned64_yields fun n hn => ?_
  · exact .nil fun n hn _ _ _ _ _ _ => hn
  · obtain rfl := Except.ok.inj hn
    decide

end Config

/-! ## Events -/

namespace ContainerEvent

/-- The exit code and the instants of an event are such as can be read. -/
def IsInReach : ContainerEvent → Prop
  | .started _ _ startedAt => ∀ t ∈ startedAt, Rfc3339.isInReach t.day = true
  | .terminated _ _ startedAt finishedAt exitCode _ _ =>
    (∀ t ∈ startedAt, Rfc3339.isInReach t.day = true) ∧
      (∀ t ∈ finishedAt, Rfc3339.isInReach t.day = true) ∧ -2 ^ 31 ≤ exitCode ∧ exitCode < 2 ^ 31

theorem instantJson_eq (o : Option Instant) : instantJson o = orNull Rfc3339.toJson o := by
  cases o <;> rfl

theorem instantJson_reads {o : Option Instant} (h : ∀ t ∈ o, Rfc3339.isInReach t.day = true) :
    Rfc3339.decoder.nullable.Reads (instantJson o) o := by
  rw [instantJson_eq]
  exact orNull_reads fun t ht => ⟨by simp [Rfc3339.toJson], Rfc3339.decoder_reads (h t ht)⟩

@[simp] theorem instantJson_isPlain (o : Option Instant) : (instantJson o).IsPlain := by
  cases o <;> exact trivial

@[simp] theorem instantJson_isWhole (o : Option Instant) : (instantJson o).IsWhole := by
  cases o <;> exact trivial

theorem toJson_reads {e : ContainerEvent} (h : e.IsInReach) : decoder.Reads e.toJson e := by
  cases e with
  | started pod container startedAt =>
    refine Json.Decoder.tagged_reads _ rfl (by simp) (by simp) ?_
    refine Json.Case.reads_of_fields (by simp [Json.Fields.nullable, Json.Fields.andThen]) ?_
    refine Json.Fields.Reads.decoder (l := [("pod", some (.string pod)),
      ("container", some (.string container)), ("at", some (instantJson startedAt))]) ?_ _ rfl
      (by simp)
    refine .written ?_ (by simp [given]) (instantJson_reads h)
    refine .written ?_ (by simp [given]) (string_reads container)
    refine .written ?_ (by simp [given]) (string_reads pod)
    exact Json.Fields.nil_reads _ _
  | terminated pod container startedAt finishedAt exitCode reason message =>
    obtain ⟨hstarted, hfinished, hcode⟩ := h
    refine Json.Decoder.tagged_reads _ rfl (by simp) (by simp) ?_
    refine Json.Case.reads_of_fields (by simp [Json.Fields.nullable, Json.Fields.andThen]) ?_
    refine Json.Fields.Reads.decoder (l := [("pod", some (.string pod)),
      ("container", some (.string container)), ("started_at", some (instantJson startedAt)),
      ("finished_at", some (instantJson finishedAt)), ("exit_code", some (.int exitCode)),
      ("reason", some (Json.text? reason)), ("message", some (Json.text? message))]) ?_ _ rfl
      (by simp)
    refine .written ?_ (by simp [given]) (text?_reads string_reads message)
    refine .written ?_ (by simp [given]) (text?_reads string_reads reason)
    refine .written ?_ (by simp [given]) (Json.Decoder.signed32_reads hcode)
    refine .written ?_ (by simp [given]) (instantJson_reads hfinished)
    refine .written ?_ (by simp [given]) (instantJson_reads hstarted)
    refine .written ?_ (by simp [given]) (string_reads container)
    refine .written ?_ (by simp [given]) (string_reads pod)
    exact Json.Fields.nil_reads _ _

theorem toJson_isWhole {e : ContainerEvent} (h : e.IsInReach) : e.toJson.IsWhole := by
  cases e with
  | started => simp [toJson]
  | terminated pod container startedAt finishedAt exitCode reason message =>
    have hcode : (Json.int exitCode).IsWhole := by
      obtain ⟨-, -, hlow, hhigh⟩ := h
      exact ⟨by omega, by omega⟩
    simp [toJson, hcode]

theorem decoder_yields : decoder.Yields IsInReach := by
  have hnone : ∀ o : Option Instant, (.ok none : Except Json.Problem (Option Instant)) = .ok o →
      ∀ t ∈ o, Rfc3339.isInReach t.day = true := by
    rintro _ ⟨⟩
    simp
  have hinstant := Rfc3339.decoder_yields.nullable
  refine Json.Decoder.Yields.tagged ?_ _ _
  simp only [cases, List.forall_mem_cons]
  refine ⟨?_, ?_, by simp⟩
  · refine .andThen ?_ _ _ hinstant hnone
    refine .andAny (.andAny ?_ _ _) _ _
    exact .nil fun _ _ _ h => h
  · refine .andAny (.andAny ?_ _ _) _ _
    refine .andThen ?_ _ _ Json.Decoder.signed32_yields (by simp)
    refine .andThen ?_ _ _ hinstant hnone
    refine .andThen ?_ _ _ hinstant hnone
    refine .andAny (.andAny ?_ _ _) _ _
    exact .nil fun _ _ _ hstarted _ hfinished _ hcode _ _ => ⟨hstarted, hfinished, hcode⟩

end ContainerEvent

/-! ## Reading undoes writing -/

namespace Document

open Json (Decoder decodeText)

/-- What is written for a value is read as that value, and whatever a text is read as can be
written and read again. -/
structure RoundTrips {α : Type} (d : Decoder α) (write : α → Json) (IsValue : α → Prop) : Prop where
  read_write : ∀ x, IsValue x → decodeText d (write x).compact = .ok x
  read_write_read : ∀ text x, decodeText d text = .ok x → decodeText d (write x).compact = .ok x

theorem RoundTrips.of_reads {α : Type} {d : Decoder α} {write : α → Json} {IsValue : α → Prop}
    (hreads : ∀ x, IsValue x → d.Reads (write x) x) (hwhole : ∀ x, IsValue x → (write x).IsWhole)
    (hyields : d.Yields IsValue) : RoundTrips d write IsValue := by
  have hwrite : ∀ x, IsValue x → decodeText d (write x).compact = .ok x :=
    fun x hx => Json.decodeText_compact (hreads x hx) (hwhole x hx)
  exact ⟨hwrite, fun text x hx => hwrite x (hyields.decodeText hx)⟩

/-- The kinds of documents of which every value that the program holds is read back. -/
structure AllRoundTrip : Prop where
  config : RoundTrips Config.decoder Config.toJson fun c => c.pollInterval < 2 ^ 64
  definition : RoundTrips Definition.decoder Definition.toJson fun _ => True
  step : RoundTrips Step.decoder Step.toJson fun _ => True
  request : RoundTrips ResourceRequest.decoder ResourceRequest.toJson fun _ => True
  presets : RoundTrips Presets.decoder Presets.toJson fun _ => True
  images : RoundTrips PipelineImages.decoder PipelineImages.toJson fun _ => True
  link : RoundTrips StepLink.decoder StepLink.toJson fun _ => True
  job : RoundTrips Job.decoder Job.toJson fun j => j.owner = none
  event : RoundTrips ContainerEvent.decoder ContainerEvent.toJson fun e =>
    ∃ text, decodeText ContainerEvent.decoder text = .ok e

/-- Fields that a document leaves out come back with their standard values. -/
structure LeftOut : Prop where
  config : ∀ poll wrapper artifacts stream dir images presets, (∀ n ∈ poll, n < 2 ^ 64) →
    decodeText Config.decoder
        (Config.someJson poll wrapper artifacts stream dir images presets).compact =
      .ok ⟨poll.getD Config.standard.pollInterval,
        wrapper.getD Config.standard.secretWrapperImage,
        artifacts.getD Config.standard.artifactsImage, stream.getD Config.standard.imageStream,
        dir.getD none, images.getD Config.standard.images, presets.getD Config.standard.presets⟩
  definition : ∀ name profile pre test post,
    decodeText Definition.decoder (Definition.someJson name profile pre test post).compact =
      .ok ⟨name, profile.getD none, pre.getD [], test.getD [], post.getD []⟩
  step : ∀ name image commands resources dir,
    decodeText Step.decoder (Step.someJson name image commands resources dir).compact =
      .ok ⟨name, image, commands, resources.getD .empty, dir.getD none⟩
  request : ∀ preset requests limits,
    decodeText ResourceRequest.decoder (ResourceRequest.someJson preset requests limits).compact =
      .ok ⟨preset.getD none, requests.getD ∅, limits.getD ∅⟩
  job : ∀ inNamespace name buildId prowJobId,
    decodeText Job.decoder (Job.someJson inNamespace name buildId prowJobId).compact =
      .ok ⟨inNamespace, name, buildId.getD "", prowJobId.getD "", none⟩
  /-- The names of images may also stand in any order and more than once. -/
  images : ∀ tags built,
    ∃ r, decodeText PipelineImages.decoder (PipelineImages.someJson tags built).compact = .ok r ∧
      (r.tags.toList.Pairwise (· < ·) ∧ ∀ k, k ∈ r.tags.toList ↔ k ∈ tags.getD []) ∧
      r.built.toList.Pairwise (· < ·) ∧ ∀ k, k ∈ r.built.toList ↔ k ∈ built.getD []

theorem leftOut : LeftOut := by
  constructor
  · intro poll wrapper artifacts stream dir images presets h
    exact Json.decodeText_compact (Config.someJson_reads _ _ _ _ _ _ _ h)
      (Config.someJson_isWhole _ _ _ _ _ _ _ h)
  · intro name profile pre test post
    exact Json.decodeText_compact (Definition.someJson_reads _ _ _ _ _) (by simp)
  · intro name image commands resources dir
    exact Json.decodeText_compact (Step.someJson_reads _ _ _ _ _) (by simp)
  · intro preset requests limits
    exact Json.decodeText_compact (ResourceRequest.someJson_reads _ _ _) (by simp)
  · intro inNamespace name buildId prowJobId
    exact Json.decodeText_compact (Job.someJson_reads _ _ _ _) (by simp)
  · intro tags built
    have hset : ∀ l : Option (List String), ∀ k,
        k ∈ ((l.map TextSet.ofList).getD ∅).toList ↔ k ∈ l.getD [] := by
      intro l k
      cases l with
      | none => exact Iff.rfl
      | some l => exact TextSet.mem_toList_ofList l k
    exact ⟨_, Json.decodeText_compact (PipelineImages.someJson_reads tags built) (by simp),
      ⟨TextSet.toList_sorted _, hset tags⟩, TextSet.toList_sorted _, hset built⟩

/-- Reading undoes writing for all kinds of documents. -/
theorem allRoundTrip : AllRoundTrip ∧ LeftOut := by
  refine ⟨?_, leftOut⟩
  constructor
  · exact .of_reads (fun _ h => Config.toJson_reads h) (fun _ h => Config.toJson_isWhole h)
      Config.decoder_yields
  · exact .of_reads (fun d _ => d.toJson_reads) (fun d _ => d.toJson_isWhole) (Decoder.yields_true _)
  · exact .of_reads (fun s _ => s.toJson_reads) (fun s _ => s.toJson_isWhole) (Decoder.yields_true _)
  · exact .of_reads (fun r _ => r.toJson_reads) (fun r _ => r.toJson_isWhole) (Decoder.yields_true _)
  · exact .of_reads (fun p _ => p.toJson_reads) (fun p _ => p.toJson_isWhole) (Decoder.yields_true _)
  · exact .of_reads (fun r _ => r.toJson_reads) (fun r _ => r.toJson_isWhole) (Decoder.yields_true _)
  · exact .of_reads (fun l _ => l.toJson_reads) (fun l _ => l.toJson_isWhole) (Decoder.yields_true _)
  · exact .of_reads (fun _ h => Job.toJson_reads h) (fun j _ => j.toJson_isWhole) Job.decoder_yields
  · have hreach : ∀ e : ContainerEvent, (∃ text, decodeText ContainerEvent.decoder text = .ok e) →
        e.IsInReach := by
      rintro e ⟨text, h⟩
      exact ContainerEvent.decoder_yields.decodeText h
    have hwrite := fun e h => Json.decodeText_compact (ContainerEvent.toJson_reads (hreach e h))
      (ContainerEvent.toJson_isWhole (hreach e h))
    exact ⟨hwrite, fun text e h => hwrite e ⟨text, h⟩⟩

/-- An instant given at an offset is written in UTC and stays the same. -/
theorem allRoundTrip_offset :
    let e : ContainerEvent := .started "e2e" "test" (some ⟨18320, 84600, 500000000, by decide, by decide⟩)
    decodeText ContainerEvent.decoder ("\x7b\"type\":\"started\",\"pod\":\"e2e\"," ++
        "\"container\":\"test\",\"at\":\"2020-02-29T00:30:00.5+01:00\"\x7d") = .ok e ∧
      decodeText ContainerEvent.decoder e.toJson.compact = .ok e ∧
      decodeText Config.decoder Config.standard.toJson.compact = .ok .standard ∧
      decodeText Job.decoder (Job.mk "ci" "e2e" "7" "" none).toJson.compact =
        .ok ⟨"ci", "e2e", "7", "", none⟩ := by
  intro e
  have hread : decodeText ContainerEvent.decoder ("\x7b\"type\":\"started\",\"pod\":\"e2e\"," ++
      "\"container\":\"test\",\"at\":\"2020-02-29T00:30:00.5+01:00\"\x7d") = .ok e := by
    decide +kernel
  exact ⟨hread, allRoundTrip.1.event.read_write_read _ e hread,
    allRoundTrip.1.config.read_write .standard (by decide),
    allRoundTrip.1.job.read_write _ rfl⟩

end Document

end StagedTests
