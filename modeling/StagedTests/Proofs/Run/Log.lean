import StagedTests.Proofs.Run.Layers

/-!
# What a run adds to the journal

A run only adds to the journal, and the token follows from what is added: it is cancelled for the
first reason that is noted. A property of what was added since some world is kept by everything
whose entries it can take at its end.
-/

namespace StagedTests

variable {σ : Type}

section

variable {α : Type} {l m head tail : List α} {e : α}

theorem append_eq_append_cons (h : l ++ m = head ++ e :: tail) :
    (∃ c, l = head ++ e :: c ∧ tail = c ++ m) ∨ ∃ a, head = l ++ a ∧ m = a ++ e :: tail := by
  rcases List.append_eq_append_iff.mp h with ⟨a, hhead, hm⟩ | ⟨c, hl, htail⟩
  · exact .inr ⟨a, hhead, hm⟩
  · cases c with
    | nil =>
      refine .inr ⟨[], ?_, htail.symm⟩
      rw [List.append_nil, hl, List.append_nil]
    | cons x c =>
      obtain ⟨rfl, rfl⟩ := List.cons.inj htail
      exact .inl ⟨c, hl, rfl⟩

end

/-! ## The token behind a log -/

def Entry.signal : Entry → Token → Token
  | .cancelled reason, t => t.cancel reason
  | _, t => t

theorem isCancelled_of_cause {t : Token} {reason : String} (h : t.cause = some reason) :
    t.isCancelled = true := by
  rw [Token.isCancelled, h]
  rfl

/-- The token behind what was added to a journal. -/
def tokenAfter (t : Token) (log : List Entry) : Token := log.foldl (fun t e => e.signal t) t

section

variable {t : Token} {log : List Entry}

theorem tokenAfter_append (l m : List Entry) :
    tokenAfter t (l ++ m) = tokenAfter (tokenAfter t l) m :=
  List.foldl_append

theorem tokenAfter_of_isCancelled (h : t.isCancelled = true) (log : List Entry) :
    tokenAfter t log = t := by
  induction log with
  | nil => rfl
  | cons e rest ih =>
    have he : e.signal t = t := by
      cases e with
      | cancelled reason => exact Token.cancel_of_isCancelled h reason
      | _ => rfl
    change tokenAfter (e.signal t) rest = t
    rw [he, ih]

theorem tokenAfter_append_of_isCancelled (h : (tokenAfter t log).isCancelled = true)
    (m : List Entry) : tokenAfter t (log ++ m) = tokenAfter t log := by
  rw [tokenAfter_append]
  exact tokenAfter_of_isCancelled h m

end

def Entry.isClosing (r : Reaction) : Entry → Bool
  | .closing r' => r' == r
  | _ => false

/-- What was added before a scope began to close: everything, if none did. -/
def untilClosing (r : Reaction) (log : List Entry) : List Entry :=
  log.takeWhile fun e => !e.isClosing r

/-- The first entry of its kind is where a scope begins to close. -/
theorem untilClosing_eq {r : Reaction} {opening : List Entry} (h : .closing r ∉ opening)
    (ending : List Entry) : untilClosing r (opening ++ .closing r :: ending) = opening := by
  have hopening : ∀ e ∈ opening, (!e.isClosing r) = true := by
    intro e he
    cases e with
    | closing r' =>
      have hne : r' ≠ r := fun heq => h (heq ▸ he)
      simpa [Entry.isClosing] using hne
    | _ => rfl
  rw [untilClosing, List.takeWhile_append_of_pos hopening, List.takeWhile_cons_of_neg
    (by simp [Entry.isClosing]), List.append_nil]

theorem untilClosing_isPrefix (r : Reaction) (opening ending : List Entry) :
    untilClosing r (opening ++ .closing r :: ending) <+: opening := by
  rw [untilClosing, List.takeWhile_append]
  split
  · have hstop : List.takeWhile (fun e => !e.isClosing r) (.closing r :: ending) = [] :=
      List.takeWhile_cons_of_neg (by simp [Entry.isClosing])
    simp only [hstop, List.append_nil, List.prefix_rfl]
  · exact List.takeWhile_prefix _

theorem tokenAfter_untilClosing_concat (t : Token) (r : Reaction) (log : List Entry) {e : Entry}
    (he : ∀ t, e.signal t = t) :
    tokenAfter t (untilClosing r (log ++ [e])) = tokenAfter t (untilClosing r log) := by
  rw [untilClosing, List.takeWhile_append]
  split
  · rename_i hall
    have hlog : untilClosing r log = log := (List.takeWhile_prefix _).eq_of_length hall
    rw [hlog, tokenAfter_append, List.takeWhile_cons]
    split
    · exact he _
    · rfl
  · rfl

/-- A token that is cancelled before a scope begins to close is cancelled when it does. -/
theorem isCancelled_of_untilClosing {t : Token} {r : Reaction} {opening ending : List Entry}
    (h : (tokenAfter t (untilClosing r (opening ++ .closing r :: ending))).isCancelled = true) :
    (tokenAfter t opening).isCancelled = true := by
  obtain ⟨rest, hrest⟩ := untilClosing_isPrefix r opening ending
  rw [← hrest, tokenAfter_append_of_isCancelled h]
  exact h

/-! ## What was added since some world -/

/-- Whether an entry may be made where a task pauses: by others, or by their watchers. -/
def Entry.isAside : Entry → Bool
  | .cancelled _ | .warned _ => true
  | .called (.deletePods _) | .answered (.deletePods _) _ => true
  | _ => false

def Entry.isOfScope : Entry → Bool
  | .opened _ | .closing _ | .closed _ => true
  | _ => false

def Grows (E : Entry → Prop) (S : List Entry → Prop) : Prop :=
  ∀ log e, E e → S log → S (log ++ [e])

/-- Entries about calls of a kind are of the kind `E`, and so is what is noted besides. -/
structure Admits (E : Entry → Prop) (A : Call → Prop) : Prop where
  aside : ∀ e, e.isAside = true → E e
  commands : ∀ pod container words, A (.exec pod container words)
  called : ∀ c, A c → E (.called c)
  answered : ∀ c problem, A c → E (.answered c problem)
  delivered : ∀ e, E (.delivered e)
  scope : ∀ e, e.isOfScope = true → E e
  recorded : ∀ kind name object, E (.recorded kind name object)

/-- Since `w₀` a log was added to the journal that `S` holds of, and the token is that behind it. -/
def World.Along (w₀ : World σ) (S : List Entry → Prop) (w : World σ) : Prop :=
  ∃ log, w.journal = w₀.journal ++ log ∧ w.token = tokenAfter w₀.token log ∧ S log

def World.Behind (w₀ : World σ) (w : World σ) : Prop := w₀.Along (fun _ => True) w

namespace World.Along

variable {w₀ w w' : World σ} {E : Entry → Prop} {S T : List Entry → Prop}

theorem start (w : World σ) (h : S []) : w.Along S w := ⟨[], (List.append_nil _).symm, rfl, h⟩

theorem self (w : World σ) : w.Behind w := start w trivial

theorem mono (h : w₀.Along S w) (hST : ∀ log, w.token = tokenAfter w₀.token log → S log → T log) :
    w₀.Along T w := by
  obtain ⟨log, hjournal, htoken, hS⟩ := h
  exact ⟨log, hjournal, htoken, hST log htoken hS⟩

theorem of_eq (h : w₀.Along S w) (hjournal : w'.journal = w.journal) (htoken : w'.token = w.token) :
    w₀.Along S w' := by
  obtain ⟨log, hj, ht, hS⟩ := h
  exact ⟨log, hjournal.trans hj, htoken.trans ht, hS⟩

theorem add (h : w₀.Along S w) {e : Entry} (hsignal : ∀ t, e.signal t = t)
    (hST : ∀ log, w.token = tokenAfter w₀.token log → S log → T (log ++ [e])) :
    w₀.Along T (w.note e) := by
  obtain ⟨log, hjournal, htoken, hS⟩ := h
  refine ⟨log ++ [e], ?_, ?_, hST log htoken hS⟩
  · rw [note, hjournal, List.append_assoc]
  · rw [tokenAfter_append]
    exact htoken.trans (hsignal _).symm

theorem note (hS : Grows E S) {e : Entry} (he : E e) (hsignal : ∀ t, e.signal t = t)
    (h : w₀.Along S w) : w₀.Along S (w.note e) :=
  h.add hsignal fun log _ => hS log e he

theorem cancel (hS : Grows E S) (reason : String) (he : E (.cancelled reason))
    (h : w₀.Along S w) : w₀.Along S (w.cancel reason) := by
  unfold World.cancel
  split
  · exact h
  · obtain ⟨log, hjournal, htoken, hlog⟩ := h
    refine ⟨log ++ [.cancelled reason], ?_, ?_, hS log _ he hlog⟩
    · rw [World.note, hjournal, List.append_assoc]
    · rw [tokenAfter_append, ← htoken]
      rfl

theorem answer (hS : Grows E S) {c : Call} (he : ∀ problem, E (.answered c problem)) {α : Type}
    (op : σ → Reply α × σ) (h : w₀.Along S w) : w₀.Along S (w.answer c op).2 := by
  rcases hop : op w.cluster with ⟨reply, s⟩
  cases reply with
  | hangs =>
    rw [answer_of_hangs c hop]
    exact h.of_eq rfl rfl
  | answered a =>
    rw [answer_of_answered c hop]
    have h' : w₀.Along S { w with cluster := s } := h.of_eq rfl rfl
    exact h'.note hS (he _) fun _ => rfl

theorem react (env : Surroundings σ) (hS : Grows E S) (haside : ∀ e, e.isAside = true → E e)
    (r : Reaction) (h : w₀.Along S w) : w₀.Along S (env.react w r).1 := by
  cases r with
  | cancelObserver => exact h.of_eq rfl rfl
  | deletePods selector =>
    have hcalled : w₀.Along S (w.note (.called (.deletePods selector))) :=
      h.note hS (haside _ rfl) fun _ => rfl
    refine env.react_deletePods w selector ?_ fun _ _ hv => hv.note hS (haside _ rfl) fun _ => rfl
    exact hcalled.answer hS (fun _ => haside _ rfl) (env.pods.deleteCollection selector)

end World.Along

section

variable (env : Surroundings σ) (w₀ : World σ) {E : Entry → Prop} {A : Call → Prop}
  {S : List Entry → Prop} (hS : Grows E S)
include hS

theorem keptAtPauses_along (haside : ∀ e, e.isAside = true → E e) :
    KeptAtPauses env (w₀.Along S) where
  meanwhile := fun _ _ hw => hw.of_eq rfl rfl
  happen := fun x w hw => by
    cases x with
    | cancel reason => exact hw.cancel hS reason (haside _ rfl)
    | cancelObserver => exact hw.of_eq rfl rfl
    | turn i =>
      exact env.turn_keeps i hw (hw.react env hS haside) fun _ _ hv => hv.of_eq rfl rfl

theorem keptByScopes_along (haside : ∀ e, e.isAside = true → E e)
    (hscope : ∀ e, e.isOfScope = true → E e) : KeptByScopes env (w₀.Along S) where
  toKeptAtPauses := keptAtPauses_along env w₀ hS haside
  opened := fun r w hw => by
    have hw' : w₀.Along S
        { w with watchers := w.watchers ++ [⟨r, .waiting⟩], closing := false } := hw.of_eq rfl rfl
    exact hw'.note hS (hscope _ rfl) fun _ => rfl
  closing := fun r w hw => by
    have hw' : w₀.Along S { w with closing := true } := hw.of_eq rfl rfl
    exact hw'.note hS (hscope _ rfl) fun _ => rfl
  closed := fun _ _ hw => hw.note hS (hscope _ rfl) fun _ => rfl
  dropped := fun _ hw => hw.of_eq rfl rfl

theorem keptByRuns_along (hA : Admits E A) : KeptByRuns env A (w₀.Along S) :=
  { keptByScopes_along env w₀ hS hA.aside hA.scope with
    commands := hA.commands
    called := fun c _ hc hw => hw.note hS (hA.called c hc) fun _ => rfl
    warned := fun _ _ hw => hw.note hS (hA.aside _ rfl) fun _ => rfl
    getPod := fun _ _ hc hw => hw.answer hS (fun problem => hA.answered _ problem hc) _
    deletePod := fun _ _ hc hw => hw.answer hS (fun problem => hA.answered _ problem hc) _
    exec := fun pod container words _ hw =>
      hw.answer hS (fun problem => hA.answered _ problem (hA.commands pod container words)) _
    createPod := fun _ _ hc hw => hw.answer hS (fun problem => hA.answered _ problem hc) _
    disk := fun _ _ hw => hw.of_eq rfl rfl
    racing := fun _ _ hw => hw.of_eq rfl rfl
    collecting := fun _ _ hw => hw.of_eq rfl rfl
    nested := fun _ _ hw => hw.of_eq rfl rfl
    delivered := fun e w hw => by
      have hw' : w₀.Along S { w with observer := w.observer.observe (env.clock w.cluster) e } :=
        hw.of_eq rfl rfl
      exact hw'.note hS (hA.delivered e) fun _ => rfl
    recorded := fun _ _ _ _ hw => hw.note hS (hA.recorded _ _ _) fun _ => rfl }

theorem keptByPreparation_along (params : Parameters σ) (haside : ∀ e, e.isAside = true → E e)
    (hcalled : ∀ c, c.secretLine?.isSome = true → E (.called c) ∧ ∀ problem, E (.answered c problem))
    (hasked : ∀ name, E (.asked name))
    (hrecorded : ∀ kind name object, E (.recorded kind name object)) :
    KeptByPreparation env params (w₀.Along S) where
  toKeptAtPauses := keptAtPauses_along env w₀ hS haside
  called := fun c _ hc hw => hw.note hS (hcalled c hc).1 fun _ => rfl
  getSecret := fun name _ hw => hw.answer hS (hcalled (.getSecret name) rfl).2 _
  createSecret := fun x _ hw => hw.answer hS (hcalled (.createSecret x) rfl).2 _
  deleteSecret := fun name _ hw => hw.answer hS (hcalled (.deleteSecret name) rfl).2 _
  asked := fun name _ hw => hw.note hS (hasked name) fun _ => rfl
  valued := fun _ _ hw => hw.of_eq rfl rfl
  recorded := fun _ _ _ _ hw => hw.note hS (hrecorded _ _ _) fun _ => rfl

end

/-! ## Whole runs -/

section

variable (env : Surroundings σ) (w₀ : World σ) {S : List Entry → Prop}
  (hS : Grows (fun _ => True) S)
include hS

theorem keptByScopes_along_any : KeptByScopes env (w₀.Along S) :=
  keptByScopes_along env w₀ hS (fun _ _ => trivial) fun _ _ => trivial

theorem keptByRuns_along_any : KeptByRuns env Call.Any (w₀.Along S) :=
  keptByRuns_along env w₀ hS
    ⟨fun _ _ => trivial, fun _ _ _ => trivial, fun _ _ => trivial, fun _ _ _ => trivial,
      fun _ => trivial, fun _ _ => trivial, fun _ _ _ => trivial⟩

theorem Runner.attempt_along (r : Runner) (p : StepPod) (text : String) :
    Task.Keeps (w₀.Along S) (r.attempt env text p) := by
  refine r.attempt_keeps (keptByRuns_along_any env w₀ hS) (fun p w hw => ?_) (fun p result w hw => ?_)
    p.within_any text
  · have hw' : w₀.Along S { w with observer := r.observerFor p } := hw.of_eq rfl rfl
    exact hw'.note hS trivial fun _ => rfl
  · exact hw.note hS trivial fun _ => rfl

end

theorem Task.closeScope_along (env : Surroundings σ) (r : Reaction) (w : World σ) :
    Task.Leads (fun v => v = w) (Task.closeScope env r) fun _ =>
      w.Along fun log => ∃ ending, log = .closing r :: ending := by
  refine ((keptByScopes_along_any env w ?_).closeScope_meets r ?_).leads
  · rintro log e - ⟨ending, rfl⟩
    exact ⟨ending ++ [e], rfl⟩
  · rintro v rfl
    have hstart : v.Along (fun log => log = []) { v with closing := true } :=
      ⟨[], (List.append_nil _).symm, rfl, rfl⟩
    exact hstart.add (fun _ => rfl) fun log _ hlog => ⟨[], by rw [hlog, List.nil_append]⟩

section

variable (env : Surroundings σ) (params : Parameters σ) (t : StagedTest)

theorem StagedTest.runPhase_behind (profile : Option ProfileSetting) (phase : Phase)
    (w₀ : World σ) : Task.Keeps w₀.Behind (t.runPhase env profile phase) :=
  t.runner.runPhase_keeps (keptByScopes_along_any env w₀ fun _ _ _ _ => trivial) _ _ _ _
    fun _ _ p _ text => t.runner.attempt_along env w₀ (fun _ _ _ _ => trivial) p text

theorem StagedTest.prepare_behind (w₀ : World σ) : Task.Keeps w₀.Behind (t.prepare env params) :=
  (keptByPreparation_along env w₀ (E := fun _ => True) (fun _ _ _ _ => trivial) params
    (fun _ _ => trivial) (fun _ _ => ⟨trivial, fun _ => trivial⟩) (fun _ => trivial)
    fun _ _ _ => trivial).prepare t

theorem Task.bind_behind {α β : Type} (t : Task σ α) {f : α → Task σ β}
    (hf : ∀ a (w₀ : World σ), Task.Keeps w₀.Behind (f a)) (w : World σ) :
    (t w).2.Behind ((t >>= f) w).2 := by
  rcases h : t w with ⟨o, w₁⟩
  cases o with
  | returned a =>
    rw [bind_of_returned f h]
    exact hf a w₁ w₁ (World.Along.self w₁)
  | dropped | abandoned | stalled =>
    rw [(bind_of_not_returned f (by rw [h]; rfl)).2, h]
    exact World.Along.self w₁

end

end StagedTests
