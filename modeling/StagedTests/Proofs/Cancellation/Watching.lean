import StagedTests.Cancellation.Scope

/-!
# Watchers as tasks

The watchers of a scope are tasks of their own. Registrations, cancellations of the token, the call
that closes the scope and the polls of the tasks come in any order, each of them one step; a reaction
that has begun goes on over any number of steps before it ends. Closing sets the scope closed, takes
the handles of its tasks and returns when all of these are done.
-/

namespace StagedTests

/-- How far the call that closes a scope has come. -/
inductive Closing
  | notCalled
  | called
  /-- Waits for these tasks. -/
  | joining (handles : List Nat)
  | returned
  /-- The scope was dropped instead. -/
  | dropped

namespace Watcher

variable {ρ : Type}

def isDone (w : Watcher ρ) : Bool := w.watch == .reacted || w.watch == .released

/-- A poll of the task of a watcher. The reaction that is due begins. -/
def poll (cancelled closed : Bool) (w : Watcher ρ) : Watcher ρ :=
  match (w.turn cancelled closed).2 with
  | some _ => { w with watch := .reacting }
  | none => (w.turn cancelled closed).1

/-- A watcher that has had its turn and whose reaction has ended. -/
def settled (cancelled closed : Bool) (w : Watcher ρ) : Watcher ρ :=
  if w.watch = .reacting then { w with watch := .reacted } else (w.turn cancelled closed).1

theorem poll_cases (cancelled closed : Bool) (w : Watcher ρ) :
    (w.watch = .waiting ∧ cancelled = true ∧ (w.turn cancelled closed).2 = some w.reaction ∧
      w.poll cancelled closed = { w with watch := .reacting }) ∨
    (w.watch = .waiting ∧ cancelled = false ∧ closed = true ∧
      (w.turn cancelled closed).2 = none ∧
      w.poll cancelled closed = { w with watch := .released }) ∨
    ((w.turn cancelled closed).2 = none ∧ w.poll cancelled closed = w) := by
  obtain ⟨reaction, watch⟩ := w
  cases watch <;> cases cancelled <;> cases closed <;> simp [poll, turn, isWaiting]

end Watcher

/-- A token, a scope on it, and the tasks of its watchers. -/
structure Watching (ρ : Type) where
  token : Token
  /-- All tasks, in the order in which they were spawned. -/
  tasks : List (Watcher ρ)
  /-- The tasks whose handles the scope holds. -/
  held : List Nat
  closed : Bool
  closing : Closing

namespace Watching

variable {ρ : Type}

def start (token : Token) : Watching ρ := ⟨token, [], [], false, .notCalled⟩

def watcherCount (s : Watching ρ) : Nat := s.held.length

inductive Act (ρ : Type)
  | spawn (reaction : ρ)
  | hold (i : Nat)
  | cancel (reason : String)
  | close
  | take
  /-- A poll, and the reaction that begins with it. -/
  | poll (i : Nat) (due : Option ρ)
  | finish (i : Nat)
  | returned
  | drop

inductive Step (s : Watching ρ) : Act ρ → Watching ρ → Prop
  | spawn (reaction : ρ) (early : s.closing = .notCalled) :
      Step s (.spawn reaction) { s with tasks := s.tasks ++ [⟨reaction, .waiting⟩] }
  | hold {i : Nat} (early : s.closing = .notCalled) (spawned : i < s.tasks.length)
      (new : i ∉ s.held) : Step s (.hold i) { s with held := s.held ++ [i] }
  | cancel (reason : String) : Step s (.cancel reason) { s with token := s.token.cancel reason }
  /-- All registrations are over by then. -/
  | close (early : s.closing = .notCalled) (registered : ∀ i < s.tasks.length, i ∈ s.held) :
      Step s .close { s with closed := true, closing := .called }
  | take (called : s.closing = .called) :
      Step s .take { s with held := [], closing := .joining s.held }
  | poll {i : Nat} {w : Watcher ρ} (task : s.tasks[i]? = some w) :
      Step s (.poll i (w.turn s.token.isCancelled s.closed).2)
        { s with tasks := s.tasks.set i (w.poll s.token.isCancelled s.closed) }
  | finish {i : Nat} {w : Watcher ρ} (task : s.tasks[i]? = some w)
      (reacting : w.watch = .reacting) :
      Step s (.finish i) { s with tasks := s.tasks.set i { w with watch := .reacted } }
  | returned {handles : List Nat} (joining : s.closing = .joining handles)
      (done : ∀ i ∈ handles, ∀ w, s.tasks[i]? = some w → w.isDone = true) :
      Step s .returned { s with closing := .returned }
  | drop (early : s.closing = .notCalled) :
      Step s .drop { s with closed := true, closing := .dropped }

inductive Run (s : Watching ρ) : List (Act ρ) → Watching ρ → Prop
  | refl : Run s [] s
  | snoc {acts : List (Act ρ)} {t u : Watching ρ} {a : Act ρ} (run : Run s acts t)
      (step : Step t a u) : Run s (acts ++ [a]) u

theorem Run.single {s t : Watching ρ} {a : Act ρ} (h : Step s a t) : Run s [a] t := .snoc .refl h

theorem Run.trans {s t u : Watching ρ} {first second : List (Act ρ)} (h : Run s first t)
    (h' : Run t second u) : Run s (first ++ second) u := by
  induction h' with
  | refl => rwa [List.append_nil]
  | snoc _ step ih =>
    rw [← List.append_assoc]
    exact .snoc ih step

/-! ## What is polled and what ends -/

def Act.begins (i : Nat) : Act ρ → Bool
  | .poll j (some _) => j == i
  | _ => false

def Act.ends (i : Nat) : Act ρ → Bool
  | .finish j => j == i
  | _ => false

def Act.due? : Act ρ → Option ρ
  | .poll _ due => due
  | _ => none

def CancelledIn (acts : List (Act ρ)) : Prop := ∃ reason, Act.cancel reason ∈ acts

def begun : Option (Watcher ρ) → Nat
  | some ⟨_, .reacting⟩ | some ⟨_, .reacted⟩ => 1
  | _ => 0

def ended : Option (Watcher ρ) → Nat
  | some ⟨_, .reacted⟩ => 1
  | _ => 0

theorem begun_le_one (w : Option (Watcher ρ)) : begun w ≤ 1 := by
  unfold begun
  split <;> omega

theorem ended_le_begun (w : Option (Watcher ρ)) : ended w ≤ begun w := by
  match w with
  | none | some ⟨_, .waiting⟩ | some ⟨_, .reacting⟩ | some ⟨_, .reacted⟩ | some ⟨_, .released⟩ =>
    simp [begun, ended]

/-- What the acts so far tell of the tasks and the scope. -/
structure Coherent (acts : List (Act ρ)) (s : Watching ρ) : Prop where
  begun_eq : ∀ i, acts.countP (Act.begins i) = begun s.tasks[i]?
  ended_eq : ∀ i, acts.countP (Act.ends i) = ended s.tasks[i]?
  /-- Nobody is released as long as the scope is open. -/
  open_ : s.closed = false → ∀ w ∈ s.tasks, w.watch ≠ .released
  closed_iff : s.closed = false ↔ s.closing = .notCalled
  called : s.closing = .called → ∀ i < s.tasks.length, i ∈ s.held
  joining : ∀ handles, s.closing = .joining handles →
    s.held = [] ∧ ∀ i < s.tasks.length, i ∈ handles
  returned : s.closing = .returned → s.held = [] ∧ ∀ w ∈ s.tasks, w.isDone = true

namespace Coherent

variable {acts : List (Act ρ)} {s : Watching ρ}

theorem start (token : Token) : Coherent [] (start token : Watching ρ) where
  begun_eq := fun _ => rfl
  ended_eq := fun _ => rfl
  open_ := fun _ _ h => by cases h
  closed_iff := ⟨fun _ => rfl, fun _ => rfl⟩
  called := fun h => by cases h
  joining := fun _ h => by cases h
  returned := fun h => by cases h

theorem countP_concat (p : Act ρ → Bool) (acts : List (Act ρ)) (a : Act ρ) :
    (acts ++ [a]).countP p = acts.countP p + if p a then 1 else 0 := by
  rw [List.countP_append, List.countP_singleton]

theorem begun_eq_concat (h : Coherent acts s) {a : Act ρ} (ha : ∀ i, a.begins i = false) (i : Nat) :
    (acts ++ [a]).countP (Act.begins i) = begun s.tasks[i]? := by
  rw [countP_concat, ha, h.begun_eq]
  rfl

theorem ended_eq_concat (h : Coherent acts s) {a : Act ρ} (ha : ∀ i, a.ends i = false) (i : Nat) :
    (acts ++ [a]).countP (Act.ends i) = ended s.tasks[i]? := by
  rw [countP_concat, ha, h.ended_eq]
  rfl

theorem getElem?_concat_waiting {f : Option (Watcher ρ) → Nat} (hnone : f none = 0)
    (hwaiting : ∀ r, f (some ⟨r, .waiting⟩) = 0) (l : List (Watcher ρ)) (r : ρ) (i : Nat) :
    f (l ++ [⟨r, .waiting⟩])[i]? = f l[i]? := by
  rw [List.getElem?_append]
  split
  · rfl
  · rename_i hi
    rw [List.getElem?_eq_none (Nat.le_of_not_lt hi), hnone]
    cases hj : i - l.length with
    | zero => exact hwaiting r
    | succ j => exact hnone

theorem spawn (h : Coherent acts s) (reaction : ρ) (early : s.closing = .notCalled) :
    Coherent (acts ++ [.spawn reaction]) { s with tasks := s.tasks ++ [⟨reaction, .waiting⟩] } where
  begun_eq := by
    intro i
    rw [h.begun_eq_concat (fun _ => rfl)]
    exact (getElem?_concat_waiting rfl (fun _ => rfl) _ _ i).symm
  ended_eq := by
    intro i
    rw [h.ended_eq_concat (fun _ => rfl)]
    exact (getElem?_concat_waiting rfl (fun _ => rfl) _ _ i).symm
  open_ := by
    intro hopen w hw
    rcases List.mem_append.mp hw with hw | hw
    · exact h.open_ hopen w hw
    · rw [List.mem_singleton.mp hw]
      exact Watch.noConfusion
  closed_iff := h.closed_iff
  called := by
    intro hcalled
    rw [early] at hcalled
    cases hcalled
  joining := by
    intro handles hjoining
    rw [early] at hjoining
    cases hjoining
  returned := by
    intro hreturned
    rw [early] at hreturned
    cases hreturned

theorem retask (h : Coherent acts s) {a : Act ρ} {i : Nat} {w w' : Watcher ρ}
    (task : s.tasks[i]? = some w)
    (hbegun : begun (some w') = begun (some w) + if a.begins i then 1 else 0)
    (hended : ended (some w') = ended (some w) + if a.ends i then 1 else 0)
    (hbegins : ∀ j, j ≠ i → a.begins j = false) (hends : ∀ j, j ≠ i → a.ends j = false)
    (hopen : s.closed = false → w'.watch ≠ .released) (hdone : w.isDone = true → w'.isDone = true) :
    Coherent (acts ++ [a]) { s with tasks := s.tasks.set i w' } := by
  have hlt : i < s.tasks.length := (List.getElem?_eq_some_iff.mp task).1
  refine ⟨fun j => ?_, fun j => ?_, ?_, h.closed_iff, ?_, ?_, ?_⟩
  · rw [countP_concat, h.begun_eq]
    by_cases hj : j = i
    · rw [hj, task, List.getElem?_set_self hlt, hbegun]
    · rw [hbegins j hj, List.getElem?_set_ne (Ne.symm hj)]
      rfl
  · rw [countP_concat, h.ended_eq]
    by_cases hj : j = i
    · rw [hj, task, List.getElem?_set_self hlt, hended]
    · rw [hends j hj, List.getElem?_set_ne (Ne.symm hj)]
      rfl
  · intro hclosed x hx
    rcases List.mem_or_eq_of_mem_set hx with hx | rfl
    · exact h.open_ hclosed x hx
    · exact hopen hclosed
  · intro hcalled
    rw [List.length_set]
    exact h.called hcalled
  · intro handles hjoining
    rw [List.length_set]
    exact h.joining handles hjoining
  · intro hreturned
    obtain ⟨hheld, hall⟩ := h.returned hreturned
    refine ⟨hheld, fun x hx => ?_⟩
    rcases List.mem_or_eq_of_mem_set hx with hx | rfl
    · exact hall x hx
    · exact hdone (hall w (List.mem_of_getElem? task))

theorem poll (h : Coherent acts s) {i : Nat} {w : Watcher ρ} (task : s.tasks[i]? = some w) :
    Coherent (acts ++ [.poll i (w.turn s.token.isCancelled s.closed).2])
      { s with tasks := s.tasks.set i (w.poll s.token.isCancelled s.closed) } := by
  obtain ⟨reaction, watch⟩ := w
  rcases Watcher.poll_cases s.token.isCancelled s.closed ⟨reaction, watch⟩ with
    ⟨rfl, -, hdue, hpoll⟩ | ⟨rfl, -, hclosed, hdue, hpoll⟩ | ⟨hdue, hpoll⟩
  · rw [hdue, hpoll]
    refine h.retask task ?_ rfl (fun j hj => ?_) (fun _ _ => rfl) (fun _ => Watch.noConfusion)
      (fun hd => by cases hd)
    · simp [begun, Act.begins]
    · simpa [Act.begins] using Ne.symm hj
  · rw [hdue, hpoll]
    refine h.retask task rfl rfl (fun _ _ => rfl) (fun _ _ => rfl) (fun hopen => ?_)
      (fun hd => by cases hd)
    rw [hclosed] at hopen
    cases hopen
  · rw [hdue, hpoll]
    exact h.retask task rfl rfl (fun _ _ => rfl) (fun _ _ => rfl)
      (fun hopen => h.open_ hopen _ (List.mem_of_getElem? task)) id

theorem finish (h : Coherent acts s) {i : Nat} {w : Watcher ρ} (task : s.tasks[i]? = some w)
    (reacting : w.watch = .reacting) :
    Coherent (acts ++ [.finish i])
      { s with tasks := s.tasks.set i { w with watch := .reacted } } := by
  obtain ⟨reaction, watch⟩ := w
  cases reacting
  refine h.retask task rfl ?_ (fun _ _ => rfl) (fun j hj => ?_) (fun _ => Watch.noConfusion)
    (fun hd => by cases hd)
  · simp [ended, Act.ends]
  · simpa [Act.ends] using Ne.symm hj

theorem step (h : Coherent acts s) {a : Act ρ} {t : Watching ρ} (ha : Step s a t) :
    Coherent (acts ++ [a]) t := by
  cases ha with
  | spawn reaction early => exact h.spawn reaction early
  | poll task => exact h.poll task
  | finish task reacting => exact h.finish task reacting
  | cancel reason =>
    exact ⟨h.begun_eq_concat fun _ => rfl, h.ended_eq_concat fun _ => rfl, h.open_, h.closed_iff,
      h.called, h.joining, h.returned⟩
  | hold early spawned new =>
    refine ⟨h.begun_eq_concat fun _ => rfl, h.ended_eq_concat fun _ => rfl, h.open_, h.closed_iff,
      fun hc => ?_, fun handles hc => ?_, fun hc => ?_⟩
    all_goals
      rw [early] at hc
      cases hc
  | close early registered =>
    refine ⟨h.begun_eq_concat fun _ => rfl, h.ended_eq_concat fun _ => rfl, (fun hc => by cases hc),
      ⟨(fun hc => by cases hc), (fun hc => by cases hc)⟩, fun _ => registered,
      (fun _ hc => by cases hc), (fun hc => by cases hc)⟩
  | take called =>
    have hheld := h.called called
    refine ⟨h.begun_eq_concat fun _ => rfl, h.ended_eq_concat fun _ => rfl, h.open_, ?_,
      (fun hc => by cases hc), ?_, (fun hc => by cases hc)⟩
    · rw [h.closed_iff, called]
      exact ⟨(fun hc => by cases hc), (fun hc => by cases hc)⟩
    · intro handles hc
      cases hc
      exact ⟨rfl, hheld⟩
  | @returned handles joining done =>
    obtain ⟨hheld, hall⟩ := h.joining handles joining
    refine ⟨h.begun_eq_concat fun _ => rfl, h.ended_eq_concat fun _ => rfl, h.open_, ?_,
      (fun hc => by cases hc), (fun _ hc => by cases hc), fun _ => ⟨hheld, fun w hw => ?_⟩⟩
    · rw [h.closed_iff, joining]
      exact ⟨(fun hc => by cases hc), (fun hc => by cases hc)⟩
    · obtain ⟨i, hi⟩ := List.mem_iff_getElem?.mp hw
      exact done i (hall i (List.getElem?_eq_some_iff.mp hi).1) w hi
  | drop early =>
    exact ⟨h.begun_eq_concat fun _ => rfl, h.ended_eq_concat fun _ => rfl, (fun hc => by cases hc),
      ⟨(fun hc => by cases hc), (fun hc => by cases hc)⟩, (fun hc => by cases hc),
      (fun _ hc => by cases hc), (fun hc => by cases hc)⟩

theorem run (h : Coherent acts s) {more : List (Act ρ)} {t : Watching ρ} (hrun : Run s more t) :
    Coherent (acts ++ more) t := by
  induction hrun with
  | refl => rwa [List.append_nil]
  | snoc _ hstep ih =>
    rw [← List.append_assoc]
    exact ih.step hstep

end Coherent

/-! ## Cancellations -/

theorem Run.split {s t : Watching ρ} {acts before after : List (Act ρ)} {a : Act ρ}
    (h : Run s acts t) (hacts : acts = before ++ a :: after) :
    ∃ u v, Run s before u ∧ Step u a v := by
  induction h generalizing after with
  | refl => simp at hacts
  | @snoc acts u v b hrun hstep ih =>
    rcases List.eq_nil_or_concat after with rfl | ⟨rest, c, rfl⟩
    · obtain ⟨rfl, hb⟩ := List.append_inj' hacts rfl
      obtain rfl := (List.cons.inj hb).1
      exact ⟨u, v, hrun, hstep⟩
    · have heq : acts ++ [b] = (before ++ a :: rest) ++ [c] := by simpa using hacts
      exact ih (List.append_inj' heq rfl).1

theorem Step.isCancelled_iff {s t : Watching ρ} {a : Act ρ} (h : Step s a t) :
    t.token.isCancelled = true ↔ s.token.isCancelled = true ∨ CancelledIn [a] := by
  cases h <;> simp [CancelledIn, Token.isCancelled_cancel]

theorem cancelledIn_append (acts more : List (Act ρ)) :
    CancelledIn (acts ++ more) ↔ CancelledIn acts ∨ CancelledIn more := by
  simp only [CancelledIn, List.mem_append, exists_or]

theorem Run.isCancelled_iff {s t : Watching ρ} {acts : List (Act ρ)} (h : Run s acts t) :
    t.token.isCancelled = true ↔ s.token.isCancelled = true ∨ CancelledIn acts := by
  induction h with
  | refl => simp [CancelledIn]
  | snoc _ hstep ih => rw [hstep.isCancelled_iff, ih, cancelledIn_append, or_assoc]

/-- A reaction begins only where the token is cancelled by then. -/
theorem Run.cancelled_of_begins {token : Token} {t : Watching ρ} {before after : List (Act ρ)}
    {i : Nat} {r : ρ} (h : Run (start token) (before ++ .poll i (some r) :: after) t) :
    token.isCancelled = true ∨ CancelledIn before := by
  obtain ⟨u, v, hrun, hstep⟩ := h.split rfl
  have hu : u.token.isCancelled = true := by
    generalize hdue : some r = due at hstep
    cases hstep with
    | poll _ =>
      rename_i w _
      rcases w.poll_cases u.token.isCancelled u.closed with ⟨-, hc, -⟩ | ⟨-, -, -, hnone, -⟩ |
        ⟨hnone, -⟩
      · exact hc
      · rw [hnone] at hdue
        cases hdue
      · rw [hnone] at hdue
        cases hdue
  exact hrun.isCancelled_iff.mp hu

def Pressing (s : Watching ρ) : Prop :=
  s.token.isCancelled = true ∧ ∀ w ∈ s.tasks, w.watch ≠ .released

theorem Pressing.step {s t : Watching ρ} {a : Act ρ} (h : Pressing s) (ha : Step s a t) :
    Pressing t := by
  obtain ⟨hcancelled, hall⟩ := h
  refine ⟨ha.isCancelled_iff.mpr (.inl hcancelled), ?_⟩
  cases ha with
  | hold | cancel | close | take | returned | drop => exact hall
  | spawn reaction early =>
    intro w hw
    rcases List.mem_append.mp hw with hw | hw
    · exact hall w hw
    · rw [List.mem_singleton.mp hw]
      exact Watch.noConfusion
  | @poll i x task =>
    intro w hw
    rcases List.mem_or_eq_of_mem_set hw with hw | rfl
    · exact hall w hw
    · rcases x.poll_cases s.token.isCancelled s.closed with ⟨-, -, -, hpoll⟩ | ⟨-, hgoing, -⟩ |
        ⟨-, hpoll⟩
      · rw [hpoll]
        exact Watch.noConfusion
      · rw [hcancelled] at hgoing
        cases hgoing
      · rw [hpoll]
        exact hall x (List.mem_of_getElem? task)
  | finish task reacting =>
    intro w hw
    rcases List.mem_or_eq_of_mem_set hw with hw | rfl
    · exact hall w hw
    · exact Watch.noConfusion

theorem Pressing.run {s t : Watching ρ} {acts : List (Act ρ)} (h : Pressing s)
    (hrun : Run s acts t) : Pressing t := by
  induction hrun with
  | refl => exact h
  | snoc _ hstep ih => exact ih.step hstep

/-- Where the token is cancelled before the scope is closed, every reaction has ended when the call
returns. -/
theorem Coherent.reacted {acts more : List (Act ρ)} {s t : Watching ρ} (h : Coherent acts s)
    (early : s.closing = .notCalled) (hcancelled : s.token.isCancelled = true)
    (hrun : Run s more t) (hreturned : t.closing = .returned) :
    ∀ w ∈ t.tasks, w.watch = .reacted := by
  have hpressing : Pressing t :=
    Pressing.run ⟨hcancelled, h.open_ (h.closed_iff.mpr early)⟩ hrun
  intro w hw
  have hdone := ((h.run hrun).returned hreturned).2 w hw
  have hkept := hpressing.2 w hw
  obtain ⟨reaction, watch⟩ := w
  cases watch with
  | reacted => rfl
  | waiting | reacting => cases hdone
  | released => exact absurd rfl hkept

/-! ## Behind the return -/

theorem Step.still {s t : Watching ρ} {a : Act ρ} (h : Step s a t)
    (hreturned : s.closing = .returned) (hdone : ∀ w ∈ s.tasks, w.isDone = true) :
    t.closing = .returned ∧ t.tasks = s.tasks ∧ a.due? = none ∧ ∀ i, a.ends i = false := by
  cases h with
  | spawn _ early | hold early _ _ | close early _ | drop early =>
    rw [hreturned] at early
    cases early
  | take called =>
    rw [hreturned] at called
    cases called
  | returned joining _ =>
    rw [hreturned] at joining
    cases joining
  | cancel reason => exact ⟨hreturned, rfl, rfl, fun _ => rfl⟩
  | @poll i w task =>
    have hw : w.isDone = true := hdone w (List.mem_of_getElem? task)
    have hrest : (w.turn s.token.isCancelled s.closed).2 = none ∧
        w.poll s.token.isCancelled s.closed = w := by
      obtain ⟨reaction, watch⟩ := w
      cases watch with
      | waiting | reacting => cases hw
      | reacted | released => exact ⟨rfl, rfl⟩
    obtain ⟨hi, hget⟩ := List.getElem?_eq_some_iff.mp task
    refine ⟨hreturned, ?_, hrest.1, fun _ => rfl⟩
    rw [hrest.2, ← hget]
    exact List.set_getElem_self hi
  | @finish i w task reacting =>
    have hw : w.isDone = true := hdone w (List.mem_of_getElem? task)
    rw [Watcher.isDone, reacting] at hw
    cases hw

theorem Run.still {s t : Watching ρ} {later : List (Act ρ)} (h : Run s later t)
    (hreturned : s.closing = .returned) (hdone : ∀ w ∈ s.tasks, w.isDone = true) :
    t.closing = .returned ∧ t.tasks = s.tasks ∧
      ∀ a ∈ later, a.due? = none ∧ ∀ i, a.ends i = false := by
  induction h with
  | refl => exact ⟨hreturned, rfl, fun _ ha => by cases ha⟩
  | snoc _ hstep ih =>
    obtain ⟨hclosing, htasks, hquiet⟩ := ih
    obtain ⟨hclosing', htasks', hact⟩ := hstep.still hclosing (by rwa [htasks])
    refine ⟨hclosing', htasks'.trans htasks, fun a ha => ?_⟩
    rcases List.mem_append.mp ha with ha | ha
    · exact hquiet a ha
    · rw [List.mem_singleton.mp ha]
      exact hact

/-! ## The call returns -/

theorem isDone_settled (w : Watcher ρ) (cancelled : Bool) :
    (w.settled cancelled true).isDone = true := by
  obtain ⟨reaction, watch⟩ := w
  cases watch <;> cases cancelled <;> rfl

theorem exists_settle (s : Watching ρ) {i : Nat} {w : Watcher ρ} (task : s.tasks[i]? = some w) :
    ∃ acts, Run s acts
        { s with tasks := s.tasks.set i (w.settled s.token.isCancelled s.closed) } ∧
      acts.filterMap Act.due? = (w.turn s.token.isCancelled s.closed).2.toList := by
  have hi : i < s.tasks.length := (List.getElem?_eq_some_iff.mp task).1
  obtain ⟨reaction, watch⟩ := w
  have hpoll := Step.poll task
  cases watch with
  | waiting =>
    cases hc : s.token.isCancelled with
    | true =>
      rw [hc] at hpoll
      have hfinish := Step.finish (s := { s with tasks := s.tasks.set i ⟨reaction, .reacting⟩ })
        (List.getElem?_set_self hi) rfl
      rw [List.set_set] at hfinish
      exact ⟨_, (Run.single hpoll).snoc hfinish, rfl⟩
    | false =>
      rw [hc] at hpoll
      cases hclosed : s.closed <;> rw [hclosed] at hpoll <;> exact ⟨_, .single hpoll, rfl⟩
  | reacting => exact ⟨_, .single (.finish task rfl), rfl⟩
  | reacted | released => exact ⟨_, .single hpoll, rfl⟩

theorem exists_settleAll (rest : List (Watcher ρ)) (s : Watching ρ) (before : List (Watcher ρ))
    (htasks : s.tasks = before ++ rest) :
    ∃ acts, Run s acts
        { s with tasks := before ++ rest.map (Watcher.settled s.token.isCancelled s.closed) } ∧
      acts.filterMap Act.due? =
        rest.filterMap fun w => (w.turn s.token.isCancelled s.closed).2 := by
  induction rest generalizing s before with
  | nil =>
    refine ⟨[], ?_, rfl⟩
    rw [List.map_nil, ← htasks]
    exact .refl
  | cons w rest ih =>
    have task : s.tasks[before.length]? = some w := by simp [htasks]
    obtain ⟨first, hfirst, hdue⟩ := exists_settle s task
    have hset : s.tasks.set before.length (w.settled s.token.isCancelled s.closed) =
        (before ++ [w.settled s.token.isCancelled s.closed]) ++ rest := by simp [htasks]
    obtain ⟨second, hsecond, hdues⟩ :=
      ih { s with tasks := s.tasks.set before.length (w.settled s.token.isCancelled s.closed) }
        (before ++ [w.settled s.token.isCancelled s.closed]) hset
    refine ⟨first ++ second, ?_, ?_⟩
    · have hrun := hfirst.trans hsecond
      rwa [List.append_assoc] at hrun
    · rw [List.filterMap_append, hdue, hdues, List.filterMap_cons]
      cases (w.turn s.token.isCancelled s.closed).2 <;> rfl

/-- A call that waits for its tasks can return, and the reactions that begin until then are those of
the tasks that have not had their turn. -/
theorem exists_return {s : Watching ρ} {handles : List Nat} (hclosed : s.closed = true)
    (hjoining : s.closing = .joining handles) :
    ∃ acts t, Run s acts t ∧ t.closing = .returned ∧
      acts.filterMap Act.due? = s.tasks.filterMap fun w => (w.turn s.token.isCancelled true).2 := by
  obtain ⟨acts, hrun, hdue⟩ := exists_settleAll s.tasks s [] rfl
  rw [hclosed] at hrun hdue
  refine ⟨_, _, hrun.snoc (.returned hjoining ?_), rfl, ?_⟩
  · intro i _ w hw
    obtain ⟨x, -, rfl⟩ := List.mem_map.mp (List.mem_of_getElem? hw)
    exact isDone_settled x _
  · rw [List.filterMap_append, hdue]
    exact List.append_nil _

theorem Coherent.exists_return {acts : List (Act ρ)} {s : Watching ρ} (h : Coherent acts s)
    (hcalled : s.closing = .called ∨ ∃ handles, s.closing = .joining handles) :
    ∃ more t, Run s more t ∧ t.closing = .returned := by
  have hclosed : s.closed = true := by
    cases hopen : s.closed with
    | true => rfl
    | false =>
      rw [h.closed_iff.mp hopen] at hcalled
      rcases hcalled with hcalled | ⟨_, hcalled⟩ <;> cases hcalled
  rcases hcalled with hcalled | ⟨handles, hjoining⟩
  · obtain ⟨more, t, hrun, hreturned, -⟩ :=
      Watching.exists_return (s := { s with held := [], closing := .joining s.held }) hclosed rfl
    exact ⟨_, t, (Run.single (.take hcalled)).trans hrun, hreturned⟩
  · obtain ⟨more, t, hrun, hreturned, -⟩ := Watching.exists_return hclosed hjoining
    exact ⟨more, t, hrun, hreturned⟩

/-- Nobody else doing anything, the reactions that begin while a scope is closed are those that
closing it at once gives. -/
theorem exists_close {s : Watching ρ} (early : s.closing = .notCalled)
    (registered : ∀ i < s.tasks.length, i ∈ s.held) (name : String) :
    ∃ acts t, Run s acts t ∧ t.closing = .returned ∧
      acts.filterMap Act.due? = (Scope.close s.token ⟨name, s.tasks, s.closed⟩).2 := by
  obtain ⟨acts, t, hrun, hreturned, hdue⟩ :=
    exists_return (s := { s with closed := true, held := [], closing := .joining s.held }) rfl rfl
  have hclose : Run s [.close, .take]
      { s with closed := true, held := [], closing := .joining s.held } :=
    .snoc (.single (.close early registered)) (.take rfl)
  exact ⟨_, t, hclose.trans hrun, hreturned, hdue⟩

/-- However registrations, cancellations, the closing of a scope and the polls of its tasks
interleave: a reaction begins once at most, and only where the token is cancelled; where that is so
before the scope is closed, every reaction has begun and ended when the call returns; no watcher is
left behind it, and nothing that is done later begins or ends a reaction. The call can return as
soon as the tasks are polled. -/
theorem run_watching (token : Token) {acts : List (Act ρ)} {s : Watching ρ}
    (h : Run (start token) acts s) :
    (∀ i, acts.countP (Act.begins i) ≤ 1 ∧
      acts.countP (Act.ends i) ≤ acts.countP (Act.begins i)) ∧
    (∀ before i r after, acts = before ++ .poll i (some r) :: after →
      token.isCancelled = true ∨ CancelledIn before) ∧
    (s.closing = .notCalled → s.token.isCancelled = true →
      ∀ more t, Run s more t → t.closing = .returned → ∀ i < t.tasks.length,
        (acts ++ more).countP (Act.begins i) = 1 ∧ (acts ++ more).countP (Act.ends i) = 1) ∧
    (s.closing = .returned → s.watcherCount = 0 ∧ (∀ w ∈ s.tasks, w.isDone = true) ∧
      ∀ later t, Run s later t → t.tasks = s.tasks ∧
        ∀ a ∈ later, a.due? = none ∧ ∀ i, a.ends i = false) ∧
    (s.closing = .called ∨ (∃ handles, s.closing = .joining handles) →
      ∃ more t, Run s more t ∧ t.closing = .returned) ∧
    (s.closing = .notCalled → (∀ i < s.tasks.length, i ∈ s.held) → ∀ name,
      ∃ more t, Run s more t ∧ t.closing = .returned ∧
        more.filterMap Act.due? = (Scope.close s.token ⟨name, s.tasks, s.closed⟩).2) := by
  have hs : Coherent acts s := (Coherent.start token).run h
  refine ⟨fun i => ?_, ?_, ?_, ?_, hs.exists_return, exists_close⟩
  · rw [hs.begun_eq, hs.ended_eq]
    exact ⟨begun_le_one _, ended_le_begun _⟩
  · rintro before i r after rfl
    exact h.cancelled_of_begins
  · intro early hcancelled more t hrun hreturned i hi
    have ht : Coherent (acts ++ more) t := hs.run hrun
    have hreacted := hs.reacted early hcancelled hrun hreturned t.tasks[i] (List.getElem_mem hi)
    rw [ht.begun_eq, ht.ended_eq, List.getElem?_eq_getElem hi]
    rw [show t.tasks[i] = ⟨t.tasks[i].reaction, .reacted⟩ from by rw [← hreacted]]
    exact ⟨rfl, rfl⟩
  · intro hreturned
    obtain ⟨hheld, hdone⟩ := hs.returned hreturned
    refine ⟨by rw [watcherCount, hheld]; rfl, hdone, fun later t hrun => ?_⟩
    exact (hrun.still hreturned hdone).2

/-- A cancellation comes between a poll and the closing of the scope. -/
def raceActs : List (Act String) :=
  [.spawn "clean up", .hold 0, .poll 0 none, .cancel "stop", .close, .take,
    .poll 0 (some "clean up"), .finish 0, .returned]

def alone (token : Token) (watch : Watch) (held : List Nat) (closed : Bool) (closing : Closing) :
    Watching String := ⟨token, [⟨"clean up", watch⟩], held, closed, closing⟩

theorem run_race :
    Run (start .fresh) raceActs (alone ⟨some "stop"⟩ .reacted [] true .returned) := by
  have hspawn : Step (start .fresh) (.spawn "clean up")
      (alone .fresh .waiting [] false .notCalled) := .spawn _ rfl
  have hhold : Step (alone .fresh .waiting [] false .notCalled) (.hold 0)
      (alone .fresh .waiting [0] false .notCalled) := .hold rfl (by decide) (by decide)
  have hidle : Step (alone .fresh .waiting [0] false .notCalled) (.poll 0 none)
      (alone .fresh .waiting [0] false .notCalled) :=
    Step.poll (s := alone .fresh .waiting [0] false .notCalled) (i := 0)
      (w := ⟨"clean up", .waiting⟩) rfl
  have hcancel : Step (alone .fresh .waiting [0] false .notCalled) (.cancel "stop")
      (alone ⟨some "stop"⟩ .waiting [0] false .notCalled) := .cancel _
  have hclose : Step (alone ⟨some "stop"⟩ .waiting [0] false .notCalled) .close
      (alone ⟨some "stop"⟩ .waiting [0] true .called) := .close rfl (by decide)
  have htake : Step (alone ⟨some "stop"⟩ .waiting [0] true .called) .take
      (alone ⟨some "stop"⟩ .waiting [] true (.joining [0])) := .take rfl
  have hpoll : Step (alone ⟨some "stop"⟩ .waiting [] true (.joining [0])) (.poll 0 (some "clean up"))
      (alone ⟨some "stop"⟩ .reacting [] true (.joining [0])) :=
    Step.poll (s := alone ⟨some "stop"⟩ .waiting [] true (.joining [0])) (i := 0)
      (w := ⟨"clean up", .waiting⟩) rfl
  have hfinish : Step (alone ⟨some "stop"⟩ .reacting [] true (.joining [0])) (.finish 0)
      (alone ⟨some "stop"⟩ .reacted [] true (.joining [0])) :=
    Step.finish (s := alone ⟨some "stop"⟩ .reacting [] true (.joining [0])) (i := 0)
      (w := ⟨"clean up", .reacting⟩) rfl rfl
  have hreturned : Step (alone ⟨some "stop"⟩ .reacted [] true (.joining [0])) .returned
      (alone ⟨some "stop"⟩ .reacted [] true .returned) :=
    .returned rfl (by simp [alone, Watcher.isDone])
  exact ((((((((Run.single hspawn).snoc hhold).snoc hidle).snoc hcancel).snoc hclose).snoc
    htake).snoc hpoll).snoc hfinish).snoc hreturned

theorem run_watching_race :
    Run (start .fresh) raceActs (alone ⟨some "stop"⟩ .reacted [] true .returned) ∧
      raceActs.countP (Act.begins 0) ≤ 1 ∧
      (alone ⟨some "stop"⟩ .reacted [] true .returned).watcherCount = 0 := by
  obtain ⟨honce, -, -, hleft, -⟩ := run_watching .fresh run_race
  exact ⟨run_race, (honce 0).1, (hleft rfl).1⟩

end Watching

end StagedTests
