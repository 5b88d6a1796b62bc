import StagedTests.Proofs.Run.Task
import StagedTests.Run.Pod

/-!
# What the run of a pod leaves alone

A property of worlds is kept by the run of a pod if it is kept by each single thing that such a run
does: others act at a pause, a call is made and takes effect, an event is delivered, a scope is
opened and closed. The structures below list these things from few to many, so that a property that
not all of them keep is still known to be kept by the tasks that do only the first ones. Where only
some calls keep it, it is known to be kept by the tasks that make no others.
-/

namespace StagedTests

variable {σ : Type}

/-- Whether an entry is made in passing. The others are made where a pod's run begins or ends, where
an event is delivered and where a parameter is asked for. -/
def Entry.isPassing : Entry → Bool
  | .began _ | .finished _ _ | .delivered _ | .asked _ => false
  | _ => true

/-- The deletion of pods leads to what the answer to it leads to, if a warning keeps that. -/
theorem Surroundings.react_deletePods {J : World σ → Prop} (env : Surroundings σ) (w : World σ)
    (selector : String)
    (hanswer : J ((w.note (.called (.deletePods selector))).answer (.deletePods selector)
      (env.pods.deleteCollection selector)).2)
    (hwarned : ∀ message v, J v → J (v.warn message)) :
    J (env.react w (.deletePods selector)).1 := by
  simp only [react]
  split <;> rename_i heq <;> rw [heq] at hanswer
  · exact hanswer
  · exact hwarned _ _ hanswer
  · exact hanswer

namespace World

theorem answer_of_hangs {α : Type} {w : World σ} {op : σ → Reply α × σ} {s : σ} (c : Call)
    (h : op w.cluster = (.hangs, s)) : w.answer c op = (.hangs, { w with cluster := s }) := by
  simp only [answer, h]

theorem answer_of_answered {α : Type} {w : World σ} {op : σ → Reply α × σ} {s : σ}
    {a : Except ClientError α} (c : Call) (h : op w.cluster = (.answered a, s)) :
    w.answer c op = (.answered a,
      { w with cluster := s }.note (.answered c (Reply.answered a).problem?)) := by
  simp only [answer, h]

theorem cluster_answer {α : Type} (w : World σ) (c : Call) (op : σ → Reply α × σ) :
    (w.answer c op).2.cluster = (op w.cluster).2 := by
  rcases h : op w.cluster with ⟨reply, s⟩
  cases reply with
  | hangs => rw [answer_of_hangs c h]
  | answered a =>
    rw [answer_of_answered c h]
    rfl

section

variable {β : Type} (f : World σ → β) (hcluster : ∀ w s, f { w with cluster := s } = f w)
include hcluster

theorem answer_frame_of {α : Type} (w : World σ) {c : Call}
    (hnote : ∀ w problem, f (w.note (.answered c problem)) = f w) (op : σ → Reply α × σ) :
    f (w.answer c op).2 = f w := by
  rcases h : op w.cluster with ⟨reply, s⟩
  cases reply with
  | hangs =>
    rw [answer_of_hangs c h]
    exact hcluster w s
  | answered a =>
    rw [answer_of_answered c h]
    exact (hnote _ _).trans (hcluster w s)

variable (hnote : ∀ w e, e.isPassing = true → f (w.note e) = f w)
include hnote

theorem answer_frame {α : Type} (w : World σ) (c : Call) (op : σ → Reply α × σ) :
    f (w.answer c op).2 = f w :=
  answer_frame_of f hcluster w (fun w _ => hnote w _ rfl) op

theorem react_deletePods_frame (env : Surroundings σ) (w : World σ) (selector : String) :
    f (env.react w (.deletePods selector)).1 = f w := by
  refine env.react_deletePods (J := fun v => f v = f w) w selector ?_
    fun _ _ hv => (hnote _ _ rfl).trans hv
  exact (answer_frame f hcluster hnote _ _ _).trans (hnote w _ rfl)

end

theorem watchers_answer {α : Type} (w : World σ) (c : Call) (op : σ → Reply α × σ) :
    (w.answer c op).2.watchers = w.watchers :=
  answer_frame (·.watchers) (fun _ _ => rfl) (fun _ _ _ => rfl) w c op

end World

theorem Surroundings.react_watchers (env : Surroundings σ) (w : World σ) (r : Reaction) :
    (env.react w r).1.watchers = w.watchers := by
  cases r with
  | cancelObserver => rfl
  | deletePods selector =>
    exact World.react_deletePods_frame (·.watchers) (fun _ _ => rfl) (fun _ _ _ => rfl) env w selector

theorem Surroundings.react_token (env : Surroundings σ) (w : World σ) (r : Reaction) :
    (env.react w r).1.token = w.token := by
  cases r with
  | cancelObserver => rfl
  | deletePods selector =>
    exact World.react_deletePods_frame (·.token) (fun _ _ => rfl) (fun _ _ _ => rfl) env w selector

theorem Surroundings.react_watch_ne (env : Surroundings σ) (w : World σ) (r : Reaction) :
    (env.react w r).2 ≠ .waiting := by
  cases r with
  | cancelObserver =>
    intro h
    cases h
  | deletePods selector =>
    intro h
    simp only [react] at h
    split at h <;> cases h

/-- A watcher's turn comes to nothing, unless it waits: then it reacts if the token is cancelled, and
is let go if its scope is closed. -/
theorem Surroundings.turn_cases (env : Surroundings σ) (w : World σ) (i : Nat) :
    (env.turn w i = w ∧ ∀ reaction, w.watchers[i]? = some ⟨reaction, .waiting⟩ →
      w.token.isCancelled = false ∧ w.isClosed i = false) ∨
    (∃ reaction, w.watchers[i]? = some ⟨reaction, .waiting⟩ ∧ w.token.isCancelled = true ∧
      env.turn w i =
        { (env.react w reaction).1 with
          watchers := w.watchers.set i ⟨reaction, (env.react w reaction).2⟩ }) ∨
    ∃ reaction, w.watchers[i]? = some ⟨reaction, .waiting⟩ ∧ w.token.isCancelled = false ∧
      w.isClosed i = true ∧
      env.turn w i = { w with watchers := w.watchers.set i ⟨reaction, .released⟩ } := by
  rcases hx : w.watchers[i]? with _ | ⟨reaction, watch⟩
  · exact .inl ⟨by simp only [turn, hx], fun _ h => nomatch h⟩
  · have hsame : { w with watchers := w.watchers.set i ⟨reaction, watch⟩ } = w := by
      obtain ⟨hi, hget⟩ := List.getElem?_eq_some_iff.mp hx
      rw [← hget, List.set_getElem_self]
    by_cases hwaiting : watch = .waiting
    · subst hwaiting
      cases hc : w.token.isCancelled with
      | true =>
        refine .inr (.inl ⟨reaction, rfl, rfl, ?_⟩)
        simp [turn, hx, hc, Watcher.turn, Watcher.isWaiting, env.react_watchers]
      | false =>
        cases hclosed : w.isClosed i with
        | true =>
          refine .inr (.inr ⟨reaction, rfl, rfl, rfl, ?_⟩)
          simp [turn, hx, hc, hclosed, Watcher.turn, Watcher.isWaiting]
        | false =>
          refine .inl ⟨?_, fun _ _ => ⟨rfl, rfl⟩⟩
          simpa [turn, hx, hc, hclosed, Watcher.turn, Watcher.isWaiting] using hsame
    · have hnot : Watcher.isWaiting ⟨reaction, watch⟩ = false := by
        simpa [Watcher.isWaiting] using hwaiting
      refine .inl ⟨?_, fun r hr => absurd ?_ hwaiting⟩
      · simpa [turn, hx, Watcher.turn, hnot] using hsame
      · cases hr
        rfl

theorem Surroundings.turn_of_watchers_eq_nil (env : Surroundings σ) {w : World σ}
    (h : w.watchers = []) (i : Nat) : env.turn w i = w := by
  simp only [turn, h, List.getElem?_nil]

/-- What says nothing of the watchers is kept by their turns if their reactions keep it. -/
theorem Surroundings.turn_keeps {J : World σ → Prop} (env : Surroundings σ) {w : World σ} (i : Nat)
    (hw : J w) (hreact : ∀ r, J (env.react w r).1)
    (hwatchers : ∀ v l, J v → J { v with watchers := l }) : J (env.turn w i) := by
  rcases env.turn_cases w i with ⟨heq, -⟩ | ⟨reaction, -, -, heq⟩ | ⟨reaction, -, -, -, heq⟩
  · rwa [heq]
  · rw [heq]
    exact hwatchers _ _ (hreact reaction)
  · rw [heq]
    exact hwatchers _ _ hw

section

variable {β : Type} (f : World σ → β) (hcluster : ∀ w s, f { w with cluster := s } = f w)
  (hnote : ∀ w e, e.isPassing = true → f (w.note e) = f w)
  (htoken : ∀ w t, f { w with token := t } = f w)
  (hwatchers : ∀ w l, f { w with watchers := l } = f w)
  (hobserver : ∀ w o, f { w with observer := o } = f w)
include hcluster hnote htoken hwatchers hobserver

/-- Others act on the token, the watchers and the observer, and note in passing what they do. -/
theorem Surroundings.happen_frame (env : Surroundings σ) (w : World σ) (x : Happening) :
    f (env.happen w x) = f w := by
  cases x with
  | cancel reason =>
    simp only [happen, World.cancel]
    split
    · rfl
    · exact (hnote _ _ rfl).trans (htoken _ _)
  | turn i =>
    refine env.turn_keeps (J := fun v => f v = f w) i rfl (fun r => ?_) fun _ _ hv =>
      (hwatchers _ _).trans hv
    cases r with
    | cancelObserver => exact hobserver _ _
    | deletePods selector => exact World.react_deletePods_frame f hcluster hnote env w selector
  | cancelObserver => exact hobserver _ _

end

/-- What others do while a task pauses keeps `I`. -/
structure KeptAtPauses (env : Surroundings σ) (I : World σ → Prop) : Prop where
  meanwhile : ∀ m w, I w → I { w with cluster := (env.meanwhile m w.watchers.length w.cluster).2 }
  happen : ∀ h w, I w → I (env.happen w h)

/-- Calls of a kind on pods, those that create pods apart, and what is done about their answers keep
`I`. All commands are of the kind. -/
structure KeptByCalls (env : Surroundings σ) (A : Call → Prop) (I : World σ → Prop) : Prop
    extends KeptAtPauses env I where
  commands : ∀ pod container words, A (.exec pod container words)
  called : ∀ c w, A c → I w → I (w.note (.called c))
  warned : ∀ message w, I w → I (w.warn message)
  getPod : ∀ name w, A (.getPod name) → I w → I (w.answer (.getPod name) (env.pods.get name)).2
  deletePod : ∀ name w, A (.deletePod name) → I w →
    I (w.answer (.deletePod name) (env.pods.delete name)).2
  exec : ∀ pod container words w, I w →
    I (w.answer (.exec pod container words) (env.pods.exec pod container words)).2
  disk : ∀ d w, I w → I { w with disk := d }
  racing : ∀ b w, I w → I { w with racing := b }
  collecting : ∀ b w, I w → I { w with collecting := b }
  nested : ∀ n w, I w → I { w with observer := { w.observer with nested := n } }

structure KeptByEvents (env : Surroundings σ) (A : Call → Prop) (I : World σ → Prop) : Prop
    extends KeptByCalls env A I where
  delivered : ∀ e w, I w →
    I ({ w with observer := w.observer.observe (env.clock w.cluster) e }.note (.delivered e))

structure KeptByCreation (env : Surroundings σ) (A : Call → Prop) (I : World σ → Prop) : Prop
    extends KeptByCalls env A I where
  createPod : ∀ p w, A (.createPod p) → I w → I (w.answer (.createPod p) (env.pods.create p)).2

structure KeptByScopes (env : Surroundings σ) (I : World σ → Prop) : Prop
    extends KeptAtPauses env I where
  opened : ∀ r w, I w → I (World.note
    { w with watchers := w.watchers ++ [⟨r, .waiting⟩], closing := false } (.opened r))
  closing : ∀ r w, I w → I (World.note { w with closing := true } (.closing r))
  closed : ∀ r w, I w → I (w.note (.closed r))
  dropped : ∀ w, I w → I { w with watchers := w.watchers.dropLast, closing := false }

/-- Everything that the run of a pod may do keeps `I`. -/
structure KeptByRuns (env : Surroundings σ) (A : Call → Prop) (I : World σ → Prop) : Prop
    extends KeptByEvents env A I, KeptByCreation env A I, KeptByScopes env I where
  recorded : ∀ kind name object w, I w → I (w.note (.recorded kind name object))

structure StepPod.Within (A : Call → Prop) (p : StepPod) : Prop where
  get : A (.getPod p.name)
  delete : A (.deletePod p.name)
  create : A (.createPod p.pod)

def Call.Any (_ : Call) : Prop := True

theorem StepPod.within_any (p : StepPod) : p.Within Call.Any := ⟨trivial, trivial, trivial⟩

open StagedTests.Task (Keeps Leads Meets)

variable {env : Surroundings σ} {A : Call → Prop} {I : World σ → Prop}

variable (env) in
theorem keptAtPauses_closing (b : Bool) : KeptAtPauses env fun w => w.closing = b where
  meanwhile := fun _ _ hw => hw
  happen := fun x w hw => (env.happen_frame World.closing (fun _ _ => rfl) (fun _ _ _ => rfl)
    (fun _ _ => rfl) (fun _ _ => rfl) (fun _ _ => rfl) w x).trans hw

/-- Behind its last turn the innermost watcher waits no longer. -/
theorem Surroundings.turn_last {w : World σ} (hclosing : w.closing = true) {x : Watcher Reaction}
    (hx : (env.turn w (w.watchers.length - 1)).watchers.getLast? = some x) :
    x.watch ≠ .waiting := by
  have hset : ∀ y, (w.watchers.set (w.watchers.length - 1) y).getLast? = some x → x = y := by
    intro y hy
    rw [List.getLast?_eq_getElem?, List.length_set, List.getElem?_set_self'] at hy
    obtain ⟨_, -, rfl⟩ := Option.map_eq_some_iff.mp hy
    rfl
  rcases env.turn_cases w (w.watchers.length - 1) with ⟨heq, hnot⟩ | ⟨reaction, -, -, heq⟩ |
    ⟨reaction, -, -, -, heq⟩
  · rw [heq, List.getLast?_eq_getElem?] at hx
    obtain ⟨reaction, watch⟩ := x
    rintro rfl
    obtain ⟨hlt, -⟩ := List.getElem?_eq_some_iff.mp hx
    have hopen := (hnot reaction hx).2
    rw [World.isClosed, hclosing, Nat.sub_add_cancel (by omega)] at hopen
    simp at hopen
  · rw [heq] at hx
    rw [hset _ hx]
    exact env.react_watch_ne w reaction
  · rw [heq] at hx
    rw [hset _ hx]
    exact fun h => nomatch h

variable (env) in
/-- Behind its last turn the innermost watcher is dropped, unless it is still reacting. -/
theorem Task.finishWatcher_cases (w : World σ) :
    (Task.finishWatcher env w = (.stalled, env.turn w (w.watchers.length - 1)) ∧
      ∃ r, (env.turn w (w.watchers.length - 1)).watchers.getLast? = some ⟨r, .reacting⟩) ∨
    Task.finishWatcher env w = (.returned (), { env.turn w (w.watchers.length - 1) with
      watchers := (env.turn w (w.watchers.length - 1)).watchers.dropLast, closing := false }) := by
  simp only [Task.finishWatcher]
  split
  · rename_i r hlast
    exact .inl ⟨rfl, r, hlast⟩
  · exact .inr rfl

/-- What closing a scope comes to, given what others do meanwhile and what the last turn of its
watcher does. -/
theorem Task.Meets.closeScope {P J K R : World σ → Prop} (r : Reaction)
    (hclosing : ∀ w, P w → I (World.note { w with closing := true } (.closing r)))
    (hpause : Meets I (Task.pause env .closing) (fun _ => I) R)
    (hfinish : Meets I (Task.finishWatcher env) (fun _ => J) R)
    (hclosed : ∀ w, J w → K (w.note (.closed r))) :
    Meets P (Task.closeScope env r) (fun _ => K) R := by
  have hend : Meets I (Task.finishWatcher env >>= fun _ => Task.note (.closed r)) (fun _ => K) R :=
    .bind hfinish fun _ => .change hclosed
  refine .bind (Q := fun _ => I) (.change hclosing) fun _ =>
    .bind (Q := fun _ => I) (.look fun _ hw => hw) fun waits => ?_
  cases waits with
  | true => exact .bind hpause fun _ => hend
  | false => exact hend

namespace KeptAtPauses

variable (h : KeptAtPauses env I)
include h

theorem happenings (l : List Happening) (w : World σ) (hw : I w) : I (l.foldl env.happen w) := by
  induction l generalizing w with
  | nil => exact hw
  | cons a l ih => exact ih _ (h.happen a w hw)

theorem pass (m : Moment) : Keeps I (Task.pass env m) :=
  fun w hw => h.happenings _ _ (h.meanwhile m w hw)

theorem pause (m : Moment) : Keeps I (Task.pause env m) :=
  fun w hw => h.happenings _ _ (h.meanwhile m w hw)

theorem hang {α : Type} (n : Nat) : Keeps I (Task.hang env n : Task σ α) := by
  induction n with
  | zero => exact .stall
  | succ n ih => exact .bind (h.pause .hanging) fun _ => ih

theorem isCancelled : Keeps I (Task.isCancelled env) :=
  .bind (h.pass .checking) fun _ => .look _

theorem sleep (r : Runner) (looks : Nat) : Keeps I (r.sleep env looks) := by
  unfold Runner.sleep
  split
  · exact .done ()
  · exact h.pause .sleeping

/-- What is known behind a scope follows from what is known of the innermost watcher, which waits no
longer, where it is dropped. -/
theorem closeScope_leads {P J : World σ → Prop} (r : Reaction)
    (hclosing : ∀ w, P w → I (World.note { w with closing := true } (.closing r)))
    (hdropped : ∀ w, I w → (∀ x, w.watchers.getLast? = some x → x.watch ≠ .waiting) →
      J { w with watchers := w.watchers.dropLast, closing := false })
    (hclosed : ∀ w, J w → J (w.note (.closed r))) :
    Leads P (Task.closeScope env r) fun _ => J := by
  have hkept : Keeps (fun w => I w ∧ w.closing = true) (Task.pause env .closing) := fun w hw =>
    ⟨h.pause .closing w hw.1, (keptAtPauses_closing env true).pause .closing w hw.2⟩
  have hfinish : Leads (fun w => I w ∧ w.closing = true) (Task.finishWatcher env) fun _ => J := by
    rintro w _ w' ⟨hw, hc⟩ heq
    rcases Task.finishWatcher_cases env w with ⟨hstalled, -⟩ | hreturned
    · rw [hstalled] at heq
      cases heq
    · rw [hreturned] at heq
      cases heq
      exact hdropped _ (h.happen (.turn _) w hw) fun x => env.turn_last hc
  exact (Meets.closeScope r (fun w hw => ⟨hclosing w hw, rfl⟩) (Leads.ofKeeps hkept).meets
    hfinish.meets hclosed).leads

theorem call_meets {α : Type} {c : Call} {op : σ → Reply α × σ} {P : World σ → Prop}
    (hc : ∀ w, P w → I (w.note (.called c))) (hop : ∀ w, I w → I (w.answer c op).2) :
    Meets P (Task.call env c op) (fun _ => I) I := by
  refine .bind (Q := fun _ => I) (.change hc) fun _ => .ofKeeps ?_
  refine .bind (h.pause _) fun _ => .bind hop fun reply => ?_
  cases reply with
  | answered answer => exact .done answer
  | hangs => exact h.hang env.patience

theorem call {α : Type} {c : Call} {op : σ → Reply α × σ} (hc : ∀ w, I w → I (w.note (.called c)))
    (hop : ∀ w, I w → I (w.answer c op).2) : Keeps I (Task.call env c op) :=
  (h.call_meets hc hop).keeps

end KeptAtPauses

/-! ### Collecting artifacts -/

/-- What is done about local files keeps `I` if it returns, and leads to `R` if it does not. -/
structure MetByFiling (env : Surroundings σ) (I R : World σ → Prop) : Prop where
  pause : Meets I (Task.pause env .filing) (fun _ => I) R
  warned : ∀ message w, I w → I (w.warn message)
  disk : ∀ d w, I w → I { w with disk := d }

namespace MetByFiling

variable {R : World σ → Prop} (h : MetByFiling env I R)
include h

theorem editDisk {α : Type} (f : Disk → Disk × α) : Meets I (Task.editDisk f) (fun _ => I) R := by
  intro w hw
  refine ⟨fun a w' heq => ?_, fun hnot => nomatch hnot⟩
  cases heq
  exact h.disk (f w.disk).1 w hw

theorem warn (message : String) : Meets I (Task.warn message) (fun _ => I) R :=
  Meets.change (h.warned message)

theorem unpack (directory : Path) (output : CommandOutput) :
    Meets I (Collector.unpack env directory output) (fun _ => I) R := by
  refine .bind (h.editDisk _) fun made => .bind h.pause fun _ => ?_
  cases made with
  | false => exact .done fun _ hw => hw
  | true =>
    refine .bind (h.editDisk _) fun written => .bind h.pause fun _ => ?_
    cases written with
    | false => exact .done fun _ hw => hw
    | true =>
      refine .bind (h.editDisk _) fun unpacked => .bind h.pause fun _ =>
        .bind (h.editDisk _) fun removed => .bind h.pause fun _ => ?_
      cases removed with
      | false => exact .done fun _ hw => hw
      | true => cases unpacked <;> exact .done fun _ hw => hw

end MetByFiling

/-- The end of a collection, in which the container of the artifacts is let go. -/
def Collector.release (env : Surroundings σ) (c : Collector) : Task σ Unit := do
  match ← c.command env releaseCommand with
  | .ok _ => pure ()
  | .error e => Task.warn s!"Failed to release artifacts container: {e.message}"

def Collector.commands (c : Collector) : List (List String) :=
  (c.directory.toList.map fun _ => packCommand) ++ [releaseCommand]

/-- A collection runs its commands one after the other, whatever comes of each of them. -/
theorem Collector.collect_meets {I : Nat → World σ → Prop} {R : World σ → Prop}
    (hfiling : ∀ k, MetByFiling env (I k) R) (c : Collector)
    (hcommand : ∀ k words, c.commands[k]? = some words →
      Meets (I k) (c.command env words) (fun _ => I (k + 1)) R) :
    Meets (I 0) (c.collect env) (fun _ => I c.commands.length) R := by
  have hrelease : ∀ k, c.commands[k]? = some releaseCommand →
      Meets (I k) (c.release env) (fun _ => I (k + 1)) R := by
    intro k hk
    refine .bind (hcommand k _ hk) fun answer => ?_
    cases answer with
    | error e => exact (hfiling _).warn _
    | ok _ => exact .done fun _ hw => hw
  unfold Collector.collect
  cases hdirectory : c.directory with
  | none =>
    have hcommands : c.commands = [releaseCommand] := by rw [commands, hdirectory]; rfl
    rw [hcommands]
    exact hrelease 0 (by rw [hcommands]; rfl)
  | some directory =>
    have hcommands : c.commands = [packCommand, releaseCommand] := by rw [commands, hdirectory]; rfl
    rw [hcommands]
    have hfetch : Meets (I 0) (c.fetch env directory) (fun _ => I 1) R := by
      refine .bind (hcommand 0 packCommand (by rw [hcommands]; rfl)) fun answer => ?_
      cases answer with
      | error e => exact .done fun _ hw => hw
      | ok output => exact (hfiling 1).unpack directory output
    have hrest := hrelease 1 (by rw [hcommands]; rfl)
    refine .bind hfetch fun answer => ?_
    cases answer with
    | ok _ => exact hrest
    | error e => exact .bind ((hfiling 1).warn _) fun _ => hrest

/-- A collection may be abandoned, and its task goes on. -/
theorem Collector.untilStopped_meets {P P' Q Q' R : World σ → Prop} {t : Task σ Unit}
    (ht : Meets P t (fun _ => Q) R) (hbegin : ∀ w, P' w → P { w with collecting := true })
    (hend : ∀ w, Q w → Q' { w with collecting := false })
    (habandoned : ∀ w, R w → Q' (World.warn { w with collecting := false }
      "Artifact collection abandoned"))
    (hunfinished : ∀ w, R w → R { w with collecting := false }) :
    Meets P' (Collector.untilStopped t) (fun _ => Q') R := by
  intro w hw
  obtain ⟨hreturned, hended⟩ := ht _ (hbegin w hw)
  unfold Collector.untilStopped
  rcases heq : t { w with collecting := true } with ⟨o, w₁⟩
  rw [heq] at hended
  cases o with
  | returned a =>
    refine ⟨fun b w' h' => ?_, fun hnot => nomatch hnot⟩
    cases h'
    exact hend _ (hreturned a w₁ heq)
  | abandoned =>
    refine ⟨fun b w' h' => ?_, fun hnot => nomatch hnot⟩
    cases h'
    exact habandoned _ (hended rfl)
  | dropped => exact ⟨fun _ _ h' => (nomatch h'), fun _ => hunfinished _ (hended rfl)⟩
  | stalled => exact ⟨fun _ _ h' => (nomatch h'), fun _ => hended rfl⟩

/-- The single things that a collection of artifacts does keep `I` if they return, and lead to `R` if
they do not. -/
structure MetByCollection (env : Surroundings σ) (I R : World σ → Prop) : Prop
    extends MetByFiling env I R where
  pass : Keeps I (Task.pass env .checking)
  exec : ∀ pod container words, Meets I
    (Task.call env (.exec pod container words) (env.pods.exec pod container words)) (fun _ => I) R
  collecting : ∀ b w, I w → I { w with collecting := b }
  collected : ∀ (c : Collector) w, w.observer.nested = .collector c → I w →
    I { w with observer := { w.observer with nested := .collector { c with collected := true } } }
  unfinished : ∀ w, R w → R { w with collecting := false }
  abandoned : ∀ w, R w → I { w with collecting := false }

namespace MetByCollection

variable {R : World σ → Prop} (h : MetByCollection env I R)
include h

theorem collect (c : Collector) : Meets I (c.collect env) (fun _ => I) R :=
  Collector.collect_meets (I := fun _ => I) (fun _ => h.toMetByFiling) c fun _ _ _ => h.exec _ _ _

theorem untilStopped {t : Task σ Unit} (ht : Meets I t (fun _ => I) R) :
    Meets I (Collector.untilStopped t) (fun _ => I) R :=
  Collector.untilStopped_meets ht (h.collecting true) (h.collecting false)
    (fun w hw => h.warned _ _ (h.abandoned w hw)) h.unfinished

theorem observe (c : Collector) (e : ContainerEvent) :
    Meets (fun w => I w ∧ w.observer.nested = .collector c) (c.observe env e) (fun _ => I) R := by
  unfold Collector.observe
  split
  · refine .bind (Q := fun _ => I) (.change fun w hw => h.collected c w hw.2 hw.1) fun _ =>
      .bind (Q := fun _ => I) (.change h.pass) fun _ =>
        .bind (Q := fun _ => I) (.look fun _ hw => hw) fun stopped => ?_
    cases stopped with
    | true => exact h.warn _
    | false => exact h.untilStopped (h.collect c)
  · exact .done fun _ hw => hw.1

theorem notify (e : ContainerEvent) : Meets I (Observer.notify env e) (fun _ => I) R := by
  refine .bind (Q := fun nested w => I w ∧ w.observer.nested = nested)
    (.look fun _ hw => ⟨hw, rfl⟩) fun nested => ?_
  cases nested with
  | collector c => exact h.observe c e
  | silent | tally _ _ => exact .done fun _ hw => hw.1

end MetByCollection

namespace KeptByCalls

variable (h : KeptByCalls env A I)
include h

theorem look {name : String} (hA : A (.getPod name)) :
    Keeps I (Task.call env (.getPod name) (env.pods.get name)) :=
  h.call (fun w => h.called _ w hA) fun w => h.getPod name w hA

theorem remove {name : String} (hA : A (.deletePod name)) :
    Keeps I (Task.call env (.deletePod name) (env.pods.delete name)) :=
  h.call (fun w => h.called _ w hA) fun w => h.deletePod name w hA

theorem untilCancelled {α : Type} {t : Task σ α} (ht : Keeps I t) :
    Keeps I (Task.untilCancelled t) := by
  intro w hw
  have hk := ht _ (h.racing true w hw)
  unfold Task.untilCancelled
  split <;> rename_i heq <;> rw [heq] at hk
  · exact h.racing false _ hk
  · exact h.racing false _ (h.collecting false _ hk)
  · exact h.racing false _ hk
  · exact hk

theorem race {α : Type} {t : Task σ α} (ht : Keeps I t) : Keeps I (Task.race env t) := by
  refine .bind h.isCancelled fun cancelled => ?_
  cases cancelled with
  | true => exact .done none
  | false => exact h.untilCancelled ht

theorem metByCollection : MetByCollection env I I where
  pause := .ofKeeps (h.pause .filing)
  pass := h.pass .checking
  exec := fun pod container words =>
    .ofKeeps (h.call (fun w => h.called _ w (h.commands pod container words))
      (h.exec pod container words))
  warned := h.warned
  disk := h.disk
  collecting := h.collecting
  collected := fun c w _ hw => h.nested (.collector { c with collected := true }) w hw
  unfinished := h.collecting false
  abandoned := h.collecting false

theorem notify (e : ContainerEvent) : Keeps I (Observer.notify env e) :=
  (h.metByCollection.notify e).keeps

/-! ### Calls on one pod -/

theorem awaitGone (r : Runner) {name : String} (hA : A (.getPod name)) (n : Nat) :
    Keeps I (r.awaitGone env name n) := by
  induction n with
  | zero => exact .stall
  | succ n ih =>
    refine .bind (h.look hA) fun answer => ?_
    cases answer with
    | error e => exact .done _
    | ok _ => exact .bind (h.sleep r n) fun _ => ih

theorem report (result : Except ExecutionError Unit) :
    Keeps I (Runner.report result : Task σ Unit) := by
  cases result with
  | ok _ => exact .done ()
  | error e => exact h.warned _

end KeptByCalls

theorem Runner.deliverAll_keeps (h : ∀ e, Keeps I (Task.race env (Observer.deliver env e)))
    (events : List ContainerEvent) : Keeps I (deliverAll env events) := by
  induction events with
  | nil => exact .done true
  | cons e rest ih =>
    refine .bind (h e) fun answer => ?_
    cases answer with
    | none => exact .done false
    | some _ => exact ih

/-- What each look at a pod, each delivery and each sleep keep, watching the pod keeps. -/
theorem Runner.watch_keeps (r : Runner) {p : StepPod}
    (hlook : Keeps I (Task.race env (Task.call env (.getPod p.name) (env.pods.get p.name))))
    (hdeliver : ∀ events, Keeps I (deliverAll env events))
    (hsleep : ∀ n, Keeps I (Task.race env (r.sleep env n))) (n : Nat) (t : Tracker) :
    Keeps I (r.watch env p n t) := by
  induction n generalizing t with
  | zero => exact .stall
  | succ n ih =>
    refine .bind hlook fun answer => ?_
    match answer with
    | none => exact .bind (.look _) fun _ => .done _
    | some (.error e) => exact .done _
    | some (.ok pod) =>
      refine .bind (hdeliver _) fun delivered => ?_
      cases delivered with
      | false => exact .bind (.look _) fun _ => .done _
      | true =>
        simp only [if_true]
        split
        · exact .done _
        · exact .done _
        · refine .bind (hsleep n) fun slept => ?_
          cases slept with
          | none => exact .bind (.look _) fun _ => .done _
          | some _ => exact ih _

namespace KeptByEvents

variable (h : KeptByEvents env A I)
include h

theorem deliver (e : ContainerEvent) : Keeps I (Observer.deliver env e) :=
  .bind (h.notify e) fun _ => .change (h.delivered e)

theorem deliverAll (events : List ContainerEvent) : Keeps I (Runner.deliverAll env events) :=
  Runner.deliverAll_keeps (fun e => h.race (h.deliver e)) events

theorem watch (r : Runner) {p : StepPod} (hA : A (.getPod p.name)) (n : Nat) (t : Tracker) :
    Keeps I (r.watch env p n t) :=
  r.watch_keeps (h.race (h.look hA)) h.deliverAll (fun n => h.race (h.sleep r n)) n t

end KeptByEvents

namespace KeptByCreation

variable (h : KeptByCreation env A I)
include h

theorem create {p : StepPod} (hA : A (.createPod p.pod)) : Keeps I (Runner.create env p) := by
  refine .bind (h.call (fun w => h.called _ w hA) fun w => h.createPod p.pod w hA) fun answer => ?_
  cases answer <;> exact .done _

theorem createOrRestart (r : Runner) {p : StepPod} (hA : p.Within A) :
    Keeps I (r.createOrRestart env p) := by
  refine .bind (h.remove hA.delete) fun answer => ?_
  cases answer with
  | ok _ =>
    refine .bind (h.awaitGone r hA.get _) fun gone => ?_
    cases gone with
    | ok _ => exact h.create hA.create
    | error e => exact .done _
  | error e =>
    dsimp only
    split
    · exact h.create hA.create
    · exact .done _

end KeptByCreation

namespace KeptByScopes

variable (h : KeptByScopes env I)
include h

theorem finishWatcher : Keeps I (Task.finishWatcher env) := by
  intro w hw
  have hturn : I (env.turn w (w.watchers.length - 1)) := h.happen (.turn _) w hw
  rcases Task.finishWatcher_cases env w with ⟨heq, -⟩ | heq
  · rwa [heq]
  · rw [heq]
    exact h.dropped _ hturn

theorem closeScope_meets {P : World σ → Prop} (r : Reaction)
    (hclosing : ∀ w, P w → I (World.note { w with closing := true } (.closing r))) :
    Meets P (Task.closeScope env r) (fun _ => I) I :=
  .closeScope r hclosing (.ofKeeps (h.pause .closing)) (.ofKeeps h.finishWatcher) (h.closed r)

theorem closeScope (r : Reaction) : Keeps I (Task.closeScope env r) :=
  (h.closeScope_meets r (h.closing r)).keeps

end KeptByScopes

namespace KeptByRuns

variable (h : KeptByRuns env A I)
include h

theorem run (r : Runner) {p : StepPod} (hA : p.Within A) : Keeps I (r.run env p) := by
  unfold Runner.run
  split
  · exact .bind (h.recorded _ _ _) fun _ => .done _
  · refine .bind h.isCancelled fun cancelled => ?_
    cases cancelled with
    | true => exact .bind (.look _) fun _ => .done _
    | false =>
      refine .bind (h.createOrRestart r hA) fun created => ?_
      cases created with
      | error e => exact .done _
      | ok _ =>
        exact .bind (h.opened _) fun _ => .bind (h.watch r hA.get _ _) fun result =>
          .bind (h.closeScope _) fun _ => .bind (h.report result) fun _ => .done _

end KeptByRuns

end StagedTests
