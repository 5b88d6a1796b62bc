import StagedTests.Proofs.Run.Journal
import StagedTests.Proofs.Run.Log

/-!
# The deletion of a phase

The watcher of a phase issues one deletion of the pods of the test if the token is cancelled before
the scope begins to close, and none if it is not cancelled by the end, whatever the cluster answers.
A cancellation in between may find the watcher let go. All other watchers cancel observers.
-/

namespace StagedTests

variable {σ : Type}

namespace World

theorem selectors_note (w : World σ) (e : Entry) :
    (w.note e).selectors = w.selectors ++ selectorsIn [e] := selectorsIn_append w.journal [e]

theorem selectors_note_of_nil (w : World σ) {e : Entry} (he : selectorsIn [e] = []) :
    (w.note e).selectors = w.selectors := by
  rw [selectors_note, he, List.append_nil]

theorem selectors_answer {α : Type} (w : World σ) (c : Call) (op : σ → Reply α × σ) :
    (w.answer c op).2.selectors = w.selectors :=
  answer_frame_of (·.selectors) (fun _ _ => rfl) w (fun w _ => w.selectors_note_of_nil rfl) op

theorem selectors_cancel (w : World σ) (reason : String) :
    (w.cancel reason).selectors = w.selectors := by
  unfold World.cancel
  split
  · rfl
  · exact selectors_note_of_nil _ rfl

theorem watchers_cancel (w : World σ) (reason : String) :
    (w.cancel reason).watchers = w.watchers := by
  unfold World.cancel
  split <;> rfl

theorem isCancelled_cancel {w : World σ} (h : w.token.isCancelled = true) (reason : String) :
    (w.cancel reason).token.isCancelled = true := by
  rw [World.cancel, if_pos h]
  exact h

end World

namespace Surroundings

variable (env : Surroundings σ) (w : World σ)

theorem react_deletePods_selectors (selector : String) :
    (env.react w (.deletePods selector)).1.selectors = w.selectors ++ [selector] := by
  refine env.react_deletePods (J := fun v => v.selectors = w.selectors ++ [selector]) w selector ?_
    fun _ _ hv => (World.selectors_note_of_nil _ rfl).trans hv
  exact (World.selectors_answer _ _ _).trans (w.selectors_note _)

end Surroundings

/-- `J` says no more than who watches, whether the innermost scope is closed, by which selectors pods
were deleted and that the token is cancelled. -/
def Steady (J : World σ → Prop) : Prop :=
  ∀ w w' : World σ, J w → w'.watchers = w.watchers → w'.closing = w.closing →
    w'.selectors = w.selectors → (w.token.isCancelled = true → w'.token.isCancelled = true) → J w'

namespace Steady

variable {J : World σ → Prop} (hJ : Steady J) {w : World σ}
include hJ

theorem note {e : Entry} (he : selectorsIn [e] = []) (h : J w) : J (w.note e) :=
  hJ w _ h rfl rfl (w.selectors_note_of_nil he) id

theorem answer {α : Type} (c : Call) (op : σ → Reply α × σ) (h : J w) : J (w.answer c op).2 := by
  have htoken : (w.answer c op).2.token = w.token :=
    World.answer_frame (·.token) (fun _ _ => rfl) (fun _ _ _ => rfl) w c op
  refine hJ w _ h (w.watchers_answer c op)
    (World.answer_frame (·.closing) (fun _ _ => rfl) (fun _ _ _ => rfl) w c op)
    (w.selectors_answer c op) fun hcancelled => ?_
  rwa [htoken]

theorem cancel (reason : String) (h : J w) : J (w.cancel reason) := by
  refine hJ w _ h (w.watchers_cancel reason) ?_ (w.selectors_cancel reason)
    fun hcancelled => World.isCancelled_cancel hcancelled reason
  unfold World.cancel
  split <;> rfl

section

variable {env : Surroundings σ} (hturn : ∀ w i, J w → J (env.turn w i))
include hturn

theorem keptAtPauses : KeptAtPauses env J where
  meanwhile := fun _ _ hw => hJ _ _ hw rfl rfl rfl id
  happen := fun x w hw => by
    cases x with
    | cancel reason => exact hJ.cancel reason hw
    | turn i => exact hturn w i hw
    | cancelObserver => exact hJ _ _ hw rfl rfl rfl id

theorem keptByEvents : KeptByEvents env Call.NoSelector J where
  toKeptAtPauses := hJ.keptAtPauses hturn
  commands := fun _ _ _ => rfl
  called := fun _ _ hc hw => hJ.note hc.selectorsIn hw
  warned := fun _ _ hw => hJ.note rfl hw
  getPod := fun _ _ _ hw => hJ.answer _ _ hw
  deletePod := fun _ _ _ hw => hJ.answer _ _ hw
  exec := fun _ _ _ _ hw => hJ.answer _ _ hw
  disk := fun _ _ hw => hJ _ _ hw rfl rfl rfl id
  racing := fun _ _ hw => hJ _ _ hw rfl rfl rfl id
  collecting := fun _ _ hw => hJ _ _ hw rfl rfl rfl id
  nested := fun _ _ hw => hJ _ _ hw rfl rfl rfl id
  delivered := fun e w hw =>
    hJ.note (w := { w with observer := w.observer.observe (env.clock w.cluster) e }) rfl
      (hJ _ _ hw rfl rfl rfl id)

theorem keptByCreation : KeptByCreation env Call.NoSelector J :=
  { hJ.keptByEvents hturn with createPod := fun _ _ _ hw => hJ.answer _ _ hw }

theorem keptByPreparation (params : Parameters σ) : KeptByPreparation env params J where
  toKeptAtPauses := hJ.keptAtPauses hturn
  called := fun c w hc hw => hJ.note (by cases c <;> first | rfl | cases hc) hw
  getSecret := fun _ _ hw => hJ.answer _ _ hw
  createSecret := fun _ _ hw => hJ.answer _ _ hw
  deleteSecret := fun _ _ hw => hJ.answer _ _ hw
  asked := fun _ _ hw => hJ.note rfl hw
  valued := fun _ _ hw => hJ _ _ hw rfl rfl rfl id
  recorded := fun _ _ _ _ hw => hJ.note rfl hw

end

end Steady

/-- No pods were deleted, or the token is cancelled and the first watcher has issued its deletion.
Where a deletion is due, that watcher waits for it, in an open scope or for its last turn behind the
cancellation. There are so many more watchers, and these cancel observers. -/
def Guarded (selector : String) (before : List String) (due : Bool) (inner : Nat) (w : World σ) :
    Prop :=
  ∃ watch l, w.watchers = ⟨.deletePods selector, watch⟩ :: l ∧ l.length = inner ∧
    (∀ x ∈ l, x.reaction = .cancelObserver) ∧
    (w.selectors = before ∧
        (due = true → watch = .waiting ∧ (w.isClosed 0 = true → w.token.isCancelled = true)) ∨
      watch ≠ .waiting ∧ w.token.isCancelled = true ∧ w.selectors = before ++ [selector])

/-- The scope is closed. One deletion was issued behind the cancellation, or none and none was due. -/
def Unguarded (selector : String) (before : List String) (due : Bool) (w : World σ) : Prop :=
  w.watchers = [] ∧
    (w.selectors = before ∧ due = false ∨
      w.token.isCancelled = true ∧ w.selectors = before ++ [selector])

section

variable {selector : String} {before : List String} {due : Bool} {inner : Nat} {w w' : World σ}

theorem Guarded.steady (selector : String) (before : List String) (due : Bool) (inner : Nat) :
    Steady (σ := σ) (Guarded selector before due inner) := by
  rintro w w' ⟨watch, l, hl, hlength, hobservers, hstate⟩ hwatchers hclosing hselectors htoken
  have hclosed : w'.isClosed 0 = w.isClosed 0 := by
    rw [World.isClosed, World.isClosed, hclosing, hwatchers]
  refine ⟨watch, l, hwatchers.trans hl, hlength, hobservers, ?_⟩
  rcases hstate with ⟨hbefore, hdue⟩ | ⟨hacted, hcancelled, hdeleted⟩
  · refine .inl ⟨hselectors.trans hbefore, fun hd => ?_⟩
    rw [hclosed]
    exact (hdue hd).imp_right fun hc h => htoken (hc h)
  · exact .inr ⟨hacted, htoken hcancelled, hselectors.trans hdeleted⟩

/-- In an open scope it is enough that the watcher waits where a deletion is due. -/
theorem Guarded.of_open (hopen : w.isClosed 0 = false) {watch : Watch} {l : List (Watcher Reaction)}
    (hl : w.watchers = ⟨.deletePods selector, watch⟩ :: l) (hlength : l.length = inner)
    (hobservers : ∀ x ∈ l, x.reaction = .cancelObserver)
    (hstate : w.selectors = before ∧ (due = true → watch = .waiting) ∨
      watch ≠ .waiting ∧ w.token.isCancelled = true ∧ w.selectors = before ++ [selector]) :
    Guarded selector before due inner w := by
  refine ⟨watch, l, hl, hlength, hobservers, hstate.imp_left fun hidle => ?_⟩
  rw [hopen]
  exact ⟨hidle.1, fun hd => ⟨hidle.2 hd, fun h => absurd h Bool.false_ne_true⟩⟩

theorem Guarded.set (h : Guarded selector before due inner w) {i : Nat} {x : Watcher Reaction}
    (hx : x.reaction = .cancelObserver) :
    Guarded selector before due inner { w with watchers := w.watchers.set (i + 1) x } := by
  obtain ⟨watch, l, hl, hlength, hobservers, hstate⟩ := h
  refine ⟨watch, l.set i x, ?_, ?_, fun y hy => ?_, ?_⟩
  · rw [hl]
    rfl
  · rw [List.length_set, hlength]
  · rcases List.mem_or_eq_of_mem_set hy with hy | rfl
    · exact hobservers y hy
    · exact hx
  · rw [World.isClosed, List.length_set]
    exact hstate

theorem Guarded.turn (h : Guarded selector before due inner w) (env : Surroundings σ) (i : Nat) :
    Guarded selector before due inner (env.turn w i) := by
  have hfirst : ∀ {reaction}, w.watchers[0]? = some ⟨reaction, .waiting⟩ →
      ∃ l, w.watchers = ⟨.deletePods selector, .waiting⟩ :: l ∧ reaction = .deletePods selector ∧
        l.length = inner ∧ (∀ x ∈ l, x.reaction = .cancelObserver) ∧ w.selectors = before ∧
        (due = true → w.isClosed 0 = true → w.token.isCancelled = true) := by
    intro reaction hi
    obtain ⟨watch, l, hl, hlength, hobservers, hstate⟩ := h
    obtain ⟨rfl, rfl⟩ : Reaction.deletePods selector = reaction ∧ watch = .waiting := by
      simpa [hl] using hi
    -- A watcher that has acted waits no longer.
    rcases hstate with ⟨hbefore, hdue⟩ | ⟨hacted, -, -⟩
    · exact ⟨l, hl, rfl, hlength, hobservers, hbefore, fun hd => (hdue hd).2⟩
    · exact absurd rfl hacted
  have hothers : ∀ {reaction j}, w.watchers[j + 1]? = some ⟨reaction, .waiting⟩ →
      reaction = .cancelObserver := by
    intro reaction j hi
    obtain ⟨watch, l, hl, -, hobservers, -⟩ := h
    rw [hl] at hi
    exact hobservers ⟨reaction, .waiting⟩ (List.mem_of_getElem? hi)
  rcases env.turn_cases w i with ⟨heq, -⟩ | ⟨reaction, hi, hcancelled, heq⟩ |
    ⟨reaction, hi, hgoing, hclosed, heq⟩
  · rwa [heq]
  · rw [heq]
    cases i with
    | zero =>
      obtain ⟨l, hl, rfl, hlength, hobservers, hbefore, -⟩ := hfirst hi
      refine ⟨_, l, by rw [hl]; rfl, hlength, hobservers, .inr ⟨env.react_watch_ne w _, ?_, ?_⟩⟩
      · exact (congrArg Token.isCancelled (env.react_token w _)).trans hcancelled
      · exact (env.react_deletePods_selectors w selector).trans (congrArg (· ++ _) hbefore)
    | succ i =>
      obtain rfl := hothers hi
      exact Guarded.steady _ _ _ _ _ _ (h.set (i := i) (x := ⟨.cancelObserver, .reacted⟩) rfl)
        rfl rfl rfl id
  · rw [heq]
    cases i with
    | zero =>
      obtain ⟨l, hl, rfl, hlength, hobservers, hbefore, hdue⟩ := hfirst hi
      refine ⟨_, l, by rw [hl]; rfl, hlength, hobservers, .inl ⟨hbefore, fun hd => ?_⟩⟩
      rw [hdue hd hclosed] at hgoing
      cases hgoing
    | succ i =>
      obtain rfl := hothers hi
      exact h.set rfl

theorem Guarded.opened (h : Guarded selector before due inner w) :
    Guarded selector before due (inner + 1) (World.note
      { w with watchers := w.watchers ++ [⟨.cancelObserver, .waiting⟩], closing := false }
      (.opened .cancelObserver)) := by
  obtain ⟨watch, l, hl, hlength, hobservers, hstate⟩ := h
  have hopened : Guarded selector before due (inner + 1)
      { w with watchers := w.watchers ++ [⟨.cancelObserver, .waiting⟩], closing := false } := by
    refine .of_open rfl (l := l ++ [⟨.cancelObserver, .waiting⟩]) ?_ ?_ ?_
      (hstate.imp_left fun hidle => ⟨hidle.1, fun hd => (hidle.2 hd).1⟩)
    · exact congrArg (· ++ _) hl
    · rw [List.length_append, hlength]
      rfl
    · exact List.forall_mem_append.mpr ⟨hobservers, List.forall_mem_singleton.mpr rfl⟩
  exact (Guarded.steady _ _ _ _).note rfl hopened

theorem Guarded.closing (h : Guarded selector before due (inner + 1) w) :
    Guarded selector before due (inner + 1) { w with closing := true } := by
  obtain ⟨watch, l, hl, hlength, hobservers, hstate⟩ := h
  have hopen : { w with closing := true }.isClosed 0 = false := by
    simp [World.isClosed, hl, hlength]
  exact .of_open hopen hl hlength hobservers
    (hstate.imp_left fun hidle => ⟨hidle.1, fun hd => (hidle.2 hd).1⟩)

theorem Guarded.dropped (h : Guarded selector before due (inner + 1) w) :
    Guarded selector before due inner
      { w with watchers := w.watchers.dropLast, closing := false } := by
  obtain ⟨watch, l, hl, hlength, hobservers, hstate⟩ := h
  have hsome : l ≠ [] := List.ne_nil_of_length_eq_add_one hlength
  refine .of_open rfl (l := l.dropLast) ?_ ?_ (fun x hx => hobservers x (List.dropLast_subset l hx))
    (hstate.imp_left fun hidle => ⟨hidle.1, fun hd => (hidle.2 hd).1⟩)
  · rw [hl]
    exact List.dropLast_cons_of_ne_nil hsome
  · rw [List.length_dropLast, hlength, Nat.add_sub_cancel]

end

/-! ## The run of a pod in the scope -/

section

variable (env : Surroundings σ) (selector : String) (before : List String) (due : Bool)
  (inner : Nat)

theorem keptByEvents_guarded :
    KeptByEvents env Call.NoSelector (Guarded selector before due inner) :=
  (Guarded.steady selector before due inner).keptByEvents fun _ i hw => hw.turn env i

theorem keptByCreation_guarded :
    KeptByCreation env Call.NoSelector (Guarded selector before due inner) :=
  (Guarded.steady selector before due inner).keptByCreation fun _ i hw => hw.turn env i

end

open StagedTests.Task (Keeps Leads)

section

variable (env : Surroundings σ) (selector : String) (before : List String) (due : Bool)
  (inner : Nat)

theorem closeScope_guarded : Leads (Guarded selector before due (inner + 1))
    (Task.closeScope env .cancelObserver) fun _ => Guarded selector before due inner :=
  (keptByEvents_guarded env selector before due (inner + 1)).closeScope_leads _
    (fun _ hw => (Guarded.steady _ _ _ _).note rfl hw.closing) (fun _ hw _ => hw.dropped)
    fun _ hw => (Guarded.steady _ _ _ _).note rfl hw

variable (r : Runner) (p : StepPod) (hdry : r.dry = false)
include hdry

theorem Runner.run_guarded : Leads (Guarded selector before due inner) (r.run env p)
    fun _ => Guarded selector before due inner := by
  have hkept := keptByEvents_guarded env selector before due
  have hA := p.within_noSelector
  unfold Runner.run
  simp only [hdry, if_false, Bool.false_eq_true]
  refine .bind (.ofKeeps (hkept inner).isCancelled) fun cancelled => ?_
  cases cancelled with
  | true => exact .bind (.look fun _ hw => hw) fun _ => .done fun _ hw => hw
  | false =>
    have hcreated := (keptByCreation_guarded env selector before due inner).createOrRestart r hA
    refine .bind (.ofKeeps hcreated) fun created => ?_
    cases created with
    | error e => exact .done fun _ hw => hw
    | ok _ =>
      refine .bind (.change fun _ hw => hw.opened) fun _ =>
        .bind (.ofKeeps ((hkept (inner + 1)).watch r hA.get _ _)) fun result =>
          .bind (closeScope_guarded env selector before due inner) fun _ => ?_
      exact .bind (.ofKeeps ((hkept inner).report result)) fun _ => .done fun _ hw => hw

theorem Runner.attempt_guarded (text : String) : Leads (Guarded selector before due inner)
    (r.attempt env text p) fun _ => Guarded selector before due inner := by
  have hsteady := Guarded.steady (σ := σ) selector before due inner
  refine .bind (Q := fun _ => Guarded selector before due inner) (.change fun w hw => ?_) fun _ =>
    .bind (r.run_guarded env selector before due inner p hdry) fun result =>
      .bind (Q := fun _ => Guarded selector before due inner)
        (.change fun w hw => hsteady.note rfl hw)
        fun _ => .bind (.look fun _ hw => hw) fun _ => .done fun _ hw => hw
  have hw' : Guarded selector before due inner { w with observer := r.observerFor p } :=
    hsteady _ _ hw rfl rfl rfl id
  exact hsteady.note rfl hw'

end

/-! ## The scope of a phase -/

/-- A deletion is due exactly if the token is cancelled where the scope begins to close. -/
theorem closeScope_unguarded (env : Surroundings σ) (selector : String) (before : List String)
    (due : Bool) :
    Leads (fun w => Guarded selector before true 0 w ∧ w.token.isCancelled = due)
      (Task.closeScope env (.deletePods selector)) fun _ => Unguarded selector before due := by
  refine (keptByEvents_guarded env selector before due 0).closeScope_leads _ (fun w ⟨hw, hc⟩ => ?_)
    (fun w hw hlast => ?_) fun w ⟨hnone, hselectors⟩ => ⟨hnone, ?_⟩
  · obtain ⟨watch, l, hl, hlength, hobservers, hstate⟩ := hw
    have hclosing : Guarded selector before due 0 { w with closing := true } :=
      ⟨watch, l, hl, hlength, hobservers, hstate.imp_left fun hidle =>
        ⟨hidle.1, fun hd => ⟨(hidle.2 rfl).1, fun _ => hc.trans hd⟩⟩⟩
    exact (Guarded.steady _ _ _ _).note rfl hclosing
  · obtain ⟨watch, l, hl, hlength, -, hstate⟩ := hw
    obtain rfl := List.length_eq_zero_iff.mp hlength
    rw [hl] at hlast
    refine ⟨by rw [hl]; rfl, ?_⟩
    rcases hstate with ⟨hbefore, hdue⟩ | ⟨-, hcancelled, hdeleted⟩
    · exact .inl ⟨hbefore, Bool.eq_false_iff.mpr fun hd => hlast _ rfl (hdue hd).1⟩
    · exact .inr ⟨hcancelled, hdeleted⟩
  · rw [World.selectors_note_of_nil _ rfl]
    exact hselectors

/-- What a phase that was open for a part of the journal did about the pods of the test, given the
token before it: it issued one deletion if the token was cancelled before its scope began to close,
and none if the token was not cancelled by its end. -/
structure DeletesOnce (selector : String) (t : Token) (log : List Entry) : Prop where
  once : ∃ opening ending, log = opening ++ .closing (.deletePods selector) :: ending ∧
    .closing (.deletePods selector) ∉ opening ∧
    ((tokenAfter t opening).isCancelled = true → selectorsIn log = [selector])
  never : (tokenAfter t log).isCancelled = false → selectorsIn log = []

theorem DeletesOnce.deleted {selector : String} {t : Token} {log : List Entry}
    (h : DeletesOnce selector t log)
    (hcancelled : (tokenAfter t (untilClosing (.deletePods selector) log)).isCancelled = true) :
    selectorsIn log = [selector] := by
  obtain ⟨opening, ending, heq, hnot, honce⟩ := h.once
  rw [heq, untilClosing_eq hnot] at hcancelled
  exact honce hcancelled

/-- No watcher is left, and pods were deleted by no selectors but this one behind the first `count`,
and by this one behind the cancellation only. -/
def SweptSince (selector : String) (count : Nat) (w : World σ) : Prop :=
  w.watchers = [] ∧ ∀ s ∈ w.selectors.drop count, s = selector ∧ w.token.isCancelled = true

section

variable {selector : String} {count : Nat} {w w' : World σ}

theorem SweptSince.start (selector : String) (hw : w.watchers = []) :
    SweptSince selector w.selectors.length w := by
  refine ⟨hw, fun s hs => ?_⟩
  rw [List.drop_length] at hs
  cases hs

theorem SweptSince.steady (selector : String) (count : Nat) :
    Steady (σ := σ) (SweptSince selector count) := by
  rintro w w' ⟨hnone, hswept⟩ hwatchers - hselectors htoken
  refine ⟨hwatchers.trans hnone, fun s hs => ?_⟩
  rw [hselectors] at hs
  exact (hswept s hs).imp_right htoken

theorem SweptSince.of_unguarded (h : SweptSince selector count w) {due : Bool}
    (hw' : Unguarded selector w.selectors due w')
    (htoken : w.token.isCancelled = true → w'.token.isCancelled = true) :
    SweptSince selector count w' := by
  obtain ⟨hwatchers, ⟨hselectors, -⟩ | ⟨hcancelled, hselectors⟩⟩ := hw'
  · refine ⟨hwatchers, fun s hs => ?_⟩
    rw [hselectors] at hs
    exact (h.2 s hs).imp_right htoken
  · refine ⟨hwatchers, fun s hs => ⟨?_, hcancelled⟩⟩
    rw [hselectors, List.drop_append] at hs
    rcases List.mem_append.mp hs with hs | hs
    · exact (h.2 s hs).1
    · exact List.mem_singleton.mp (List.mem_of_mem_drop hs)

end

/-- A scope that a deletion is due in, closed behind `v`, leaves no watcher and one deletion. -/
theorem closeScope_deletes (env : Surroundings σ) (selector : String) (v : World σ) :
    Leads (fun w => Guarded selector v.selectors true 0 w ∧ v.Behind w)
      (Task.closeScope env (.deletePods selector)) fun _ w => w.watchers = [] ∧
        ∃ log, w.journal = v.journal ++ log ∧ w.token = tokenAfter v.token log ∧
          DeletesOnce selector v.token log := by
  rintro w a w' ⟨hw, before, hjournal, htoken, -⟩ h
  obtain ⟨hnone, hstate⟩ :=
    closeScope_unguarded env selector v.selectors w.token.isCancelled w a w' ⟨hw, rfl⟩ h
  obtain ⟨_, hjournal', htoken', rest, rfl⟩ := Task.closeScope_along env _ w w a w' rfl h
  rw [hjournal, List.append_assoc] at hjournal'
  rw [htoken, ← tokenAfter_append] at htoken'
  refine ⟨hnone, _, hjournal', htoken', ?_⟩
  have hlog : ∀ {l}, w'.selectors = v.selectors ++ l →
      selectorsIn (before ++ .closing (.deletePods selector) :: rest) = l := by
    intro l hl
    have hall : v.selectors ++ selectorsIn (before ++ .closing (.deletePods selector) :: rest) =
        w'.selectors := by
      rw [World.selectors, World.selectors, hjournal']
      exact (selectorsIn_append _ _).symm
    rw [hl] at hall
    exact List.append_cancel_left hall
  constructor
  · obtain ⟨opening, ending, heq, hnot⟩ := List.eq_append_cons_of_mem
      (show .closing (.deletePods selector) ∈ before ++ .closing (.deletePods selector) :: rest by
        simp)
    refine ⟨opening, ending, heq, hnot, fun hcancelled => ?_⟩
    rw [← untilClosing_eq hnot ending, ← heq] at hcancelled
    have hdue : w.token.isCancelled = true := by
      rw [htoken]
      exact isCancelled_of_untilClosing hcancelled
    rcases hstate with ⟨-, hnever⟩ | ⟨-, hdeleted⟩
    · rw [hdue] at hnever
      cases hnever
    · exact hlog hdeleted
  · intro hgoing
    rcases hstate with ⟨hbefore, -⟩ | ⟨hcancelled, -⟩
    · exact hlog (hbefore.trans (List.append_nil _).symm)
    · rw [htoken', hgoing] at hcancelled
      cases hcancelled

namespace Runner

variable (env : Surroundings σ) (r : Runner) (policy : Policy) (description : String)
  (pods : List StepPod)

theorem runPods_leads (hdry : r.dry = false) {v : World σ} (hv : v.watchers = [])
    {J : World σ → Prop}
    (hclose : Leads (fun w => Guarded (testSelector r.test) v.selectors true 0 w ∧ v.Behind w)
      (Task.closeScope env (.deletePods (testSelector r.test))) fun _ => J) :
    Leads (fun w => w = v) (r.runPods env policy description pods) fun _ => J := by
  have hguarded : Leads (Guarded (testSelector r.test) v.selectors true 0)
      (r.runAll env policy description pods)
      fun _ => Guarded (testSelector r.test) v.selectors true 0 :=
    r.runAll_leads policy description fun p _ text =>
      r.attempt_guarded env (testSelector r.test) v.selectors true 0 p hdry text
  have hbehind : Keeps v.Behind (r.runAll env policy description pods) :=
    r.runAll_keeps policy description fun p _ text =>
      r.attempt_along env v (fun _ _ _ _ => trivial) p text
  unfold runPods
  simp only [hdry, if_false, Bool.false_eq_true]
  refine .bind (.change ?_) fun _ => .bind (.and hguarded (.ofKeeps hbehind)) fun _ =>
    .bind hclose fun _ => .done fun _ hw => hw
  rintro w rfl
  have hopened : Guarded (testSelector r.test) w.selectors true 0
      { w with
        watchers := w.watchers ++ [⟨.deletePods (testSelector r.test), .waiting⟩],
        closing := false } := by
    refine .of_open rfl (l := []) ?_ rfl (fun _ h => absurd h List.not_mem_nil)
      (.inl ⟨rfl, fun _ => rfl⟩)
    rw [hv]
    rfl
  have hstart : w.Behind
      { w with
        watchers := w.watchers ++ [⟨.deletePods (testSelector r.test), .waiting⟩],
        closing := false } := (World.Along.self w).of_eq rfl rfl
  exact ⟨(Guarded.steady _ _ _ _).note rfl hopened, hstart.add (fun _ => rfl) fun _ _ _ => trivial⟩

theorem runPods_unguarded (hdry : r.dry = false) {v : World σ} (hv : v.watchers = []) :
    Leads (fun w => w = v) (r.runPods env policy description pods)
      fun _ w => ∃ due, Unguarded (testSelector r.test) v.selectors due w :=
  r.runPods_leads env policy description pods hdry hv fun w a w' hw h =>
    ⟨_, closeScope_unguarded env _ v.selectors _ w a w' ⟨hw.1, rfl⟩ h⟩

/-- What the pods of a phase are run in: a scope that deletes them once. -/
theorem runPods_deletes (hdry : r.dry = false) {v v' : World σ} (hv : v.watchers = [])
    {x : List ExecutionError × List TestCase}
    (h : r.runPods env policy description pods v = (.returned x, v')) :
    v'.watchers = [] ∧ ∃ log, v'.journal = v.journal ++ log ∧ v'.token = tokenAfter v.token log ∧
      DeletesOnce (testSelector r.test) v.token log :=
  r.runPods_leads env policy description pods hdry hv (closeScope_deletes env _ v) v x v' rfl h

end Runner

namespace StagedTest

variable (t : StagedTest) (env : Surroundings σ) (profile : Option ProfileSetting) (phase : Phase)

theorem keptByPreparation_swept (params : Parameters σ) (selector : String) (count : Nat) :
    KeptByPreparation env params (SweptSince selector count) := by
  refine (SweptSince.steady selector count).keptByPreparation (fun w i hw => ?_) params
  rwa [env.turn_of_watchers_eq_nil hw.1]

theorem prepare_watchers (params : Parameters σ) :
    Keeps (fun w => w.watchers = []) (t.prepare env params) := fun _ hw =>
  ((keptByPreparation_swept env params (testSelector t.name) _).prepare t _ (.start _ hw)).1

theorem runPhase_of_no_pods
    (h : ∀ pods, (t.synthesizer profile).generatePods (t.definition.steps phase) = .ok pods →
      pods = []) (v : World σ) :
    ∃ report, t.runPhase env profile phase v = (.returned report, v) := by
  unfold runPhase Runner.runPhase
  cases hpods : (t.synthesizer profile).generatePods (t.definition.steps phase) with
  | error errors => exact ⟨_, rfl⟩
  | ok pods =>
    obtain rfl := h pods hpods
    exact ⟨_, rfl⟩

theorem runPhase_runs {pods : List StepPod}
    (hpods : (t.synthesizer profile).generatePods (t.definition.steps phase) = .ok pods)
    (hsome : pods ≠ []) {v v' : World σ} {report : PhaseReport}
    (h : t.runPhase env profile phase v = (.returned report, v')) :
    ∃ x, t.runner.runPods env (Policy.ofPhase phase) t.description pods v = (.returned x, v') := by
  unfold runPhase Runner.runPhase at h
  rw [hpods] at h
  cases pods with
  | nil => exact absurd rfl hsome
  | cons p rest =>
    obtain ⟨x, v₁, hrun, hdone⟩ := Task.bind_eq_returned h
    cases hdone
    exact ⟨x, hrun⟩

/-- A phase with pods deletes them once. -/
theorem runPhase_deletes (hdry : t.dry = false) {pods : List StepPod}
    (hpods : (t.synthesizer profile).generatePods (t.definition.steps phase) = .ok pods)
    (hsome : pods ≠ []) {v v' : World σ} {report : PhaseReport} (hv : v.watchers = [])
    (h : t.runPhase env profile phase v = (.returned report, v')) :
    v'.watchers = [] ∧ ∃ log, v'.journal = v.journal ++ log ∧ v'.token = tokenAfter v.token log ∧
      DeletesOnce (testSelector t.name) v.token log := by
  obtain ⟨x, hrun⟩ := t.runPhase_runs env profile phase hpods hsome h
  exact t.runner.runPods_deletes env _ t.description pods hdry hv hrun

theorem runPhase_swept (hdry : t.dry = false) (count : Nat) :
    Leads (SweptSince (testSelector t.name) count) (t.runPhase env profile phase)
      fun _ => SweptSince (testSelector t.name) count := by
  intro v report v' hv h
  have hbehind : v.Behind v' := (t.runPhase_behind env profile phase v).returned (.self v) h
  have htoken : v.token.isCancelled = true → v'.token.isCancelled = true := by
    obtain ⟨log, -, htoken, -⟩ := hbehind
    intro hcancelled
    rwa [htoken, tokenAfter_of_isCancelled hcancelled]
  by_cases hnone : ∀ pods,
      (t.synthesizer profile).generatePods (t.definition.steps phase) = .ok pods → pods = []
  · obtain ⟨report', heq⟩ := t.runPhase_of_no_pods env profile phase hnone v
    rw [h] at heq
    cases heq
    exact hv
  · push Not at hnone
    obtain ⟨pods, hpods, hsome⟩ := hnone
    obtain ⟨x, hrun⟩ := t.runPhase_runs env profile phase hpods hsome h
    obtain ⟨due, hunguarded⟩ :=
      t.runner.runPods_unguarded env _ t.description pods hdry hv.1 v x v' rfl hrun
    exact hv.of_unguarded hunguarded htoken

theorem runPhase_watchers (hdry : t.dry = false) : Leads (fun v => v.watchers = [])
    (t.runPhase env profile phase) fun _ v => v.watchers = [] := fun v _ _ hv h =>
  (t.runPhase_swept env profile phase hdry v.selectors.length v _ _ (.start _ hv) h).1

/-- A test deletes pods by its own selector, and behind the cancellation only. -/
theorem run_swept (params : Parameters σ) (hdry : t.dry = false) (count : Nat) :
    Leads (SweptSince (testSelector t.name) count) (t.run env params)
      fun _ => SweptSince (testSelector t.name) count := by
  have hprepare : Leads (SweptSince (testSelector t.name) count) (t.prepare env params)
      fun _ => SweptSince (testSelector t.name) count :=
    .ofKeeps ((keptByPreparation_swept env params _ count).prepare t)
  exact (t.run_meets hprepare.meets fun profile => t.runPhases_meets profile fun phase =>
    (t.runPhase_swept env profile phase hdry count).meets).leads

/-- A run that returns leaves no watcher. -/
theorem run_watchers (params : Parameters σ) (hdry : t.dry = false) :
    Leads (fun w => w.watchers = []) (t.run env params) fun _ w => w.watchers = [] :=
  fun w _ _ hw h =>
    (t.run_swept env params hdry w.selectors.length w _ _ (.start _ hw) h).1

end StagedTest

end StagedTests
