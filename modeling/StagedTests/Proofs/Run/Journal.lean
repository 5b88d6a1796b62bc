import StagedTests.Proofs.Run.Frame

/-!
# Parts of the journal

Most of what a run does leaves most of the journal alone. A part of the journal that shows none of
the entries made in passing, such as calls and their answers, is not changed by anything that the
run of a pod does, the delivery of events apart.
-/

namespace StagedTests

variable {σ : Type}

def World.shown (p : Entry → Bool) (w : World σ) : List Entry := w.journal.filter p

theorem World.shown_note (p : Entry → Bool) (w : World σ) (e : Entry) :
    (w.note e).shown p = w.shown p ++ if p e then [e] else [] := by
  simp only [shown, note, List.filter_append]
  cases h : p e <;> simp [h]

/-! ## Deletions by a selector -/

def selectorsIn (log : List Entry) : List String :=
  log.filterMap fun
    | .called c => c.selector?
    | _ => none

theorem selectorsIn_append (l m : List Entry) :
    selectorsIn (l ++ m) = selectorsIn l ++ selectorsIn m := List.filterMap_append

def Call.NoSelector (c : Call) : Prop := c.selector? = none

theorem StepPod.within_noSelector (p : StepPod) : p.Within Call.NoSelector := ⟨rfl, rfl, rfl⟩

theorem Call.NoSelector.selectorsIn {c : Call} (h : c.NoSelector) :
    selectorsIn [.called c] = [] := by
  have hnone : c.selector? = none := h
  simp [StagedTests.selectorsIn, hnone]

/-! ## What is not made in passing -/

variable {env : Surroundings σ} {p : Entry → Bool} (hp : ∀ e, e.isPassing = true → p e = false)

section

include hp

theorem World.shown_note_of_isPassing (w : World σ) {e : Entry} (he : e.isPassing = true) :
    (w.note e).shown p = w.shown p := by
  rw [shown_note, hp e he]
  exact List.append_nil _

theorem World.shown_answer {α : Type} (w : World σ) (c : Call) (op : σ → Reply α × σ) :
    (w.answer c op).2.shown p = w.shown p :=
  answer_frame (shown p) (fun _ _ => rfl) (fun w _ => w.shown_note_of_isPassing hp) w c op

theorem Surroundings.shown_happen (w : World σ) (h : Happening) :
    (env.happen w h).shown p = w.shown p :=
  env.happen_frame (World.shown p) (fun _ _ => rfl) (fun w _ => w.shown_note_of_isPassing hp)
    (fun _ _ => rfl) (fun _ _ => rfl) (fun _ _ => rfl) w h

variable (env)

theorem keptByCreation_shown (l : List Entry) :
    KeptByCreation env Call.Any fun w => w.shown p = l where
  commands := fun _ _ _ => trivial
  meanwhile := fun _ _ hw => hw
  happen := fun h w hw => (Surroundings.shown_happen hp w h).trans hw
  called := fun _ w _ hw => (w.shown_note_of_isPassing hp rfl).trans hw
  warned := fun _ w hw => (w.shown_note_of_isPassing hp rfl).trans hw
  getPod := fun _ w _ hw => (w.shown_answer hp _ _).trans hw
  deletePod := fun _ w _ hw => (w.shown_answer hp _ _).trans hw
  exec := fun _ _ _ w hw => (w.shown_answer hp _ _).trans hw
  disk := fun _ _ hw => hw
  racing := fun _ _ hw => hw
  collecting := fun _ _ hw => hw
  nested := fun _ _ hw => hw
  createPod := fun _ w _ hw => (w.shown_answer hp _ _).trans hw

theorem keptByScopes_shown (l : List Entry) : KeptByScopes env fun w => w.shown p = l where
  toKeptAtPauses := (keptByCreation_shown env hp l).toKeptAtPauses
  opened := fun _ _ hw => (World.shown_note_of_isPassing hp _ rfl).trans hw
  closing := fun _ _ hw => (World.shown_note_of_isPassing hp _ rfl).trans hw
  closed := fun _ w hw => (w.shown_note_of_isPassing hp rfl).trans hw
  dropped := fun _ hw => hw

/-- Where deliveries are not shown either, nothing that a run does is. -/
theorem keptByRuns_shown (hd : ∀ e, p (.delivered e) = false) (l : List Entry) :
    KeptByRuns env Call.Any fun w => w.shown p = l :=
  { keptByCreation_shown env hp l, keptByScopes_shown env hp l with
    delivered := fun e w hw => by
      rw [World.shown_note, hd e]
      exact (List.append_nil _).trans hw
    recorded := fun _ _ _ w hw => (w.shown_note_of_isPassing hp rfl).trans hw }

end

end StagedTests
