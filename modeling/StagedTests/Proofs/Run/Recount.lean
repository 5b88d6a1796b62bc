import StagedTests.Proofs.Run.Heeding
import StagedTests.Proofs.TestCase.History

/-!
# What the run of a pod tells its record

While a pod is run, its record takes in the events that are delivered, in the order in which the
journal shows them, and the cancellations that others or its watcher make in between. Nothing else
reaches it. So the record that a run leaves behind is that of a history whose events are those
delivered.
-/

namespace StagedTests

variable {σ : Type}

open StagedTests.Task (Keeps)

/-- Since `w₀` the record was told a history, whose events are those that the journal shows. -/
def World.Recounts (w₀ w : World σ) : Prop :=
  ∃ log h, w.journal = w₀.journal ++ log ∧ deliveredIn log = eventsIn h ∧
    w.observer.record = h.foldl Record.take w₀.observer.record

namespace World.Recounts

variable {w₀ w w' : World σ}

theorem start (w : World σ) : w.Recounts w := ⟨[], [], (List.append_nil _).symm, rfl, rfl⟩

theorem of_eq (h : w₀.Recounts w) (hjournal : w'.journal = w.journal)
    (hrecord : w'.observer.record = w.observer.record) : w₀.Recounts w' := by
  obtain ⟨log, told, hj, hevents, hr⟩ := h
  exact ⟨log, told, hjournal.trans hj, hevents, hrecord.trans hr⟩

theorem note (h : w₀.Recounts w) {e : Entry} (he : deliveredIn [e] = []) :
    w₀.Recounts (w.note e) := by
  obtain ⟨log, told, hjournal, hevents, hrecord⟩ := h
  refine ⟨log ++ [e], told, ?_, ?_, hrecord⟩
  · rw [World.note, hjournal, List.append_assoc]
  · rw [deliveredIn_append, he, List.append_nil, hevents]

theorem cancel (h : w₀.Recounts w) (now : Instant) (hjournal : w'.journal = w.journal)
    (hrecord : w'.observer.record = w.observer.record.cancel now) : w₀.Recounts w' := by
  obtain ⟨log, told, hj, hevents, hr⟩ := h
  refine ⟨log, told ++ [.cancel now], hjournal.trans hj, ?_, ?_⟩
  · rw [eventsIn_append, hevents]
    exact (List.append_nil _).symm
  · rw [List.foldl_append, ← hr]
    exact hrecord

theorem deliver (h : w₀.Recounts w) (now : Instant) (e : ContainerEvent)
    (hjournal : w'.journal = w.journal ++ [.delivered e])
    (hrecord : w'.observer.record = w.observer.record.observe now e) : w₀.Recounts w' := by
  obtain ⟨log, told, hj, hevents, hr⟩ := h
  refine ⟨log ++ [.delivered e], told ++ [.event now e], ?_, ?_, ?_⟩
  · rw [hjournal, hj, List.append_assoc]
  · rw [eventsIn_append, deliveredIn_append, hevents]
    rfl
  · rw [List.foldl_append, ← hr]
    exact hrecord

theorem answer (h : w₀.Recounts w) {α : Type} (c : Call) (op : σ → Reply α × σ) :
    w₀.Recounts (w.answer c op).2 := by
  rcases hop : op w.cluster with ⟨reply, s⟩
  cases reply with
  | hangs =>
    rw [answer_of_hangs c hop]
    exact h.of_eq rfl rfl
  | answered a =>
    rw [answer_of_answered c hop]
    have h' : w₀.Recounts { w with cluster := s } := h.of_eq rfl rfl
    exact h'.note rfl

theorem react (env : Surroundings σ) (h : w₀.Recounts w) (r : Reaction) :
    w₀.Recounts (env.react w r).1 := by
  cases r with
  | cancelObserver => exact h.cancel (env.clock w.cluster) rfl rfl
  | deletePods selector =>
    have hcalled : w₀.Recounts (w.note (.called (.deletePods selector))) := h.note rfl
    exact env.react_deletePods w selector (hcalled.answer _ _) fun _ _ hv => hv.note rfl

theorem happen (env : Surroundings σ) (h : w₀.Recounts w) (x : Happening) :
    w₀.Recounts (env.happen w x) := by
  cases x with
  | cancel reason =>
    simp only [Surroundings.happen, World.cancel]
    split
    · exact h
    · have h' : w₀.Recounts { w with token := w.token.cancel reason } := h.of_eq rfl rfl
      exact h'.note rfl
  | cancelObserver => exact h.cancel (env.clock w.cluster) rfl rfl
  | turn i => exact env.turn_keeps i h (h.react env) fun _ _ hv => hv.of_eq rfl rfl

end World.Recounts

theorem keptByRuns_recounts (env : Surroundings σ) (w₀ : World σ) :
    KeptByRuns env Call.Any w₀.Recounts where
  meanwhile := fun _ _ hw => hw.of_eq rfl rfl
  happen := fun x _ hw => hw.happen env x
  commands := fun _ _ _ => trivial
  called := fun _ _ _ hw => hw.note rfl
  warned := fun _ _ hw => hw.note rfl
  getPod := fun _ _ _ hw => hw.answer _ _
  deletePod := fun _ _ _ hw => hw.answer _ _
  exec := fun _ _ _ _ hw => hw.answer _ _
  createPod := fun _ _ _ hw => hw.answer _ _
  disk := fun _ _ hw => hw.of_eq rfl rfl
  racing := fun _ _ hw => hw.of_eq rfl rfl
  collecting := fun _ _ hw => hw.of_eq rfl rfl
  nested := fun _ _ hw => hw.of_eq rfl rfl
  delivered := fun e w hw => hw.deliver (env.clock w.cluster) e rfl rfl
  opened := fun _ _ hw => World.Recounts.note (hw.of_eq rfl rfl) rfl
  closing := fun _ _ hw => World.Recounts.note (hw.of_eq rfl rfl) rfl
  closed := fun _ _ hw => hw.note rfl
  dropped := fun _ hw => hw.of_eq rfl rfl
  recorded := fun _ _ _ _ hw => hw.note rfl

/-- What a run with a fresh record leaves in it is the record of a history, and the events of that
history are those delivered. -/
theorem Runner.run_recounts (r : Runner) (env : Surroundings σ) (p : StepPod) {w : World σ}
    (hfresh : w.observer.record = .fresh) :
    ∃ log h, (r.run env p w).2.journal = w.journal ++ log ∧ deliveredIn log = eventsIn h ∧
      (r.run env p w).2.observer.record = Record.ofHistory h := by
  have hrun : w.Recounts (r.run env p w).2 :=
    (keptByRuns_recounts env w).run r p.within_any w (.start w)
  obtain ⟨log, h, hjournal, hevents, hrecord⟩ := hrun
  rw [hfresh] at hrecord
  exact ⟨log, h, hjournal, hevents, hrecord⟩

end StagedTests
