import StagedTests.Proofs.Run.Frame
import StagedTests.Run.Test

/-!
# What the preparation of a test leaves alone

Before its phases a test asks for the secret of its profile and for the release images, and puts a
new secret of results in place. A property of worlds is kept by all of this if it is kept by each
single call, by what others do meanwhile and by the source of the parameters.
-/

namespace StagedTests

variable {σ : Type}

/-- Everything that the preparation of a test may do keeps `I`. -/
structure KeptByPreparation (env : Surroundings σ) (params : Parameters σ) (I : World σ → Prop) :
    Prop extends KeptAtPauses env I where
  called : ∀ c w, c.secretLine?.isSome = true → I w → I (w.note (.called c))
  getSecret : ∀ name w, I w → I (w.answer (.getSecret name) (env.secrets.get name)).2
  createSecret : ∀ x w, I w → I (w.answer (.createSecret x) (env.secrets.create x)).2
  deleteSecret : ∀ name w, I w → I (w.answer (.deleteSecret name) (env.secrets.delete name)).2
  asked : ∀ name w, I w → I (w.note (.asked name))
  valued : ∀ name w, I w → I { w with cluster := (params.get name w.cluster).2 }
  recorded : ∀ kind name object w, I w → I (w.note (.recorded kind name object))

namespace KeptByPreparation

open StagedTests.Task (Keeps)

variable {env : Surroundings σ} {params : Parameters σ} {I : World σ → Prop}
  (h : KeptByPreparation env params I) (t : StagedTest)
include h

theorem resolve (name : String) : Keeps I (StagedTest.resolve params name) :=
  .bind (.change (h.asked name)) fun _ => .bind (h.valued name) fun _ => .done _

theorem resolveProfile : Keeps I (t.resolveProfile env params) := by
  unfold StagedTest.resolveProfile
  cases t.definition.profile with
  | none => exact .done _
  | some profile =>
    have hcall := h.call (fun w => h.called (.getSecret (profileSecretName t.name)) w rfl)
      (h.getSecret (profileSecretName t.name))
    refine .bind hcall fun answer => ?_
    cases answer with
    | error e => exact .done _
    | ok _ =>
      refine .bind (h.resolve _) fun initial => ?_
      cases initial with
      | error e => exact .done _
      | ok _ =>
        refine .bind (h.resolve _) fun latest => ?_
        cases latest <;> exact .done _

theorem createResultsSecret : Keeps I (t.createResultsSecret env) := by
  have hcreate : Keeps I (StagedTest.createResultsSecret.create t env) := by
    refine .bind (h.call (fun w => h.called _ w rfl) (h.createSecret _)) fun answer => ?_
    cases answer <;> exact .done _
  unfold StagedTest.createResultsSecret
  split
  · exact .bind (.change (h.recorded _ _ _)) fun _ => .done _
  · refine .bind (h.call (fun w => h.called _ w rfl) (h.deleteSecret t.name)) fun answer => ?_
    cases answer with
    | ok _ => exact hcreate
    | error e =>
      dsimp only
      split
      · exact hcreate
      · exact .done _

theorem prepare : Keeps I (t.prepare env params) := by
  refine .bind (h.resolveProfile t) fun profile => ?_
  cases profile with
  | error e => exact .done _
  | ok profile =>
    refine .bind (h.createResultsSecret t) fun created => ?_
    cases created <;> exact .done _

end KeptByPreparation

end StagedTests
