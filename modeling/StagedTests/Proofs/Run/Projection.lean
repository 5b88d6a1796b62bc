import StagedTests.Proofs.Run.Frame

/-!
# Runs seen through a map of clusters

Surroundings may keep more than the run of a pod can tell. Where a map of their states leads to
surroundings that act in the same way, it leads from each run among the former to the one among the
latter: they end alike, and in worlds that differ in the state of the cluster only.
-/

namespace StagedTests

variable {σ τ α β : Type}

def World.map (f : σ → τ) (w : World σ) : World τ :=
  ⟨f w.cluster, w.token, w.watchers, w.closing, w.observer, w.disk, w.journal, w.racing,
    w.collecting⟩

/-- Operations on clusters that agree through a map of their states. -/
def Agrees (f : σ → τ) (op : σ → α × σ) (op' : τ → α × τ) : Prop :=
  ∀ s, op' (f s) = ((op s).1, f (op s).2)

structure Surroundings.Maps (f : σ → τ) (env : Surroundings σ) (env' : Surroundings τ) : Prop where
  create : ∀ pod, Agrees f (env.pods.create pod) (env'.pods.create pod)
  get : ∀ name, Agrees f (env.pods.get name) (env'.pods.get name)
  delete : ∀ name, Agrees f (env.pods.delete name) (env'.pods.delete name)
  deleteCollection : ∀ selector,
    Agrees f (env.pods.deleteCollection selector) (env'.pods.deleteCollection selector)
  exec : ∀ pod container words,
    Agrees f (env.pods.exec pod container words) (env'.pods.exec pod container words)
  clock : ∀ s, env'.clock (f s) = env.clock s
  meanwhile : ∀ m watchers, Agrees f (env.meanwhile m watchers) (env'.meanwhile m watchers)
  patience : env'.patience = env.patience

theorem World.answer_map {f : σ → τ} {op : σ → Reply α × σ} {op' : τ → Reply α × τ}
    (h : Agrees f op op') (w : World σ) (c : Call) :
    (w.map f).answer c op' = ((w.answer c op).1, (w.answer c op).2.map f) := by
  have hop : op' (w.map f).cluster = ((op w.cluster).1, f (op w.cluster).2) := h w.cluster
  unfold World.answer
  rw [hop]
  rcases op w.cluster with ⟨reply, s⟩
  cases reply <;> rfl

namespace Surroundings.Maps

variable {f : σ → τ} {env : Surroundings σ} {env' : Surroundings τ} (h : env.Maps f env')
include h

theorem react (w : World σ) (r : Reaction) :
    env'.react (w.map f) r = ((env.react w r).1.map f, (env.react w r).2) := by
  cases r with
  | cancelObserver =>
    have hclock : env'.clock (w.map f).cluster = env.clock w.cluster := h.clock w.cluster
    simp only [Surroundings.react, hclock]
    rfl
  | deletePods selector =>
    have hanswer := World.answer_map (h.deleteCollection selector)
      (w.note (.called (.deletePods selector))) (.deletePods selector)
    change World.answer ((w.map f).note _) _ _ = _ at hanswer
    simp only [Surroundings.react, hanswer]
    rcases (w.note (.called (.deletePods selector))).answer (.deletePods selector)
      (env.pods.deleteCollection selector) with ⟨reply, v⟩
    rcases reply with ⟨_ | _⟩ | _ <;> rfl

theorem turn (w : World σ) (i : Nat) : env'.turn (w.map f) i = (env.turn w i).map f := by
  have hwatchers : (w.map f).watchers = w.watchers := rfl
  have htoken : (w.map f).token = w.token := rfl
  have hclosed : (w.map f).isClosed i = w.isClosed i := rfl
  simp only [Surroundings.turn, hwatchers, htoken, hclosed, h.react]
  cases w.watchers[i]? with
  | none => rfl
  | some x =>
    dsimp only
    rcases x.turn w.token.isCancelled (w.isClosed i) with ⟨y, _ | reaction⟩ <;> rfl

theorem happen (w : World σ) (x : Happening) : env'.happen (w.map f) x = (env.happen w x).map f := by
  cases x with
  | cancel reason =>
    simp only [Surroundings.happen, World.cancel]
    split <;> rename_i hc
    · rw [if_pos (show w.token.isCancelled = true from hc)]
    · rw [if_neg (show ¬ w.token.isCancelled = true from hc)]
      rfl
  | turn i => exact h.turn w i
  | cancelObserver =>
    have hclock : env'.clock (w.map f).cluster = env.clock w.cluster := h.clock w.cluster
    simp only [Surroundings.happen, hclock]
    rfl

theorem happenings (l : List Happening) (w : World σ) :
    l.foldl env'.happen (w.map f) = (l.foldl env.happen w).map f := by
  induction l generalizing w with
  | nil => rfl
  | cons x l ih => rw [List.foldl_cons, List.foldl_cons, h.happen, ih]

theorem others (m : Moment) (w : World σ) :
    env'.meanwhile m (w.map f).watchers.length (w.map f).cluster =
      ((env.meanwhile m w.watchers.length w.cluster).1,
        f (env.meanwhile m w.watchers.length w.cluster).2) :=
  h.meanwhile m w.watchers.length w.cluster

end Surroundings.Maps

namespace Task

/-- The tasks do the same, through a map of clusters. -/
def Mirrors (f : σ → τ) (t : Task σ α) (t' : Task τ α) : Prop :=
  ∀ w, t' (w.map f) = ((t w).1, (t w).2.map f)

namespace Mirrors

variable {f : σ → τ} {t : Task σ α} {t' : Task τ α}

theorem done (a : α) : Mirrors f (pure a) (pure a) := fun _ => rfl

theorem bind {g : α → Task σ β} {g' : α → Task τ β} (ht : Mirrors f t t')
    (hg : ∀ a, Mirrors f (g a) (g' a)) : Mirrors f (t >>= g) (t' >>= g') := by
  intro w
  have htw := ht w
  rcases heq : t w with ⟨o, w₁⟩
  rw [heq] at htw
  cases o with
  | returned a => rw [bind_of_returned g' htw, bind_of_returned g heq, hg a w₁]
  | dropped | abandoned | stalled =>
    change andThen t' g' (w.map f) = ((andThen t g w).1, (andThen t g w).2.map f)
    simp only [andThen, htw, heq]

theorem change {g : World σ → World σ} {g' : World τ → World τ}
    (h : ∀ w, g' (w.map f) = (g w).map f) : Mirrors f (Task.change g) (Task.change g') :=
  fun w => congrArg (Prod.mk _) (h w)

theorem look {g : World σ → α} {g' : World τ → α} (h : ∀ w, g' (w.map f) = g w) :
    Mirrors f (Task.look g) (Task.look g') := fun w => by
  simp only [Task.look, h w]

theorem stall : Mirrors f (Task.stall : Task σ α) Task.stall := fun _ => rfl

theorem note (e : Entry) : Mirrors f (Task.note e) (Task.note e) := change fun _ => rfl

theorem warn (message : String) : Mirrors f (Task.warn message) (Task.warn message) :=
  change fun _ => rfl

theorem editDisk (g : Disk → Disk × α) : Mirrors f (Task.editDisk g) (Task.editDisk g) :=
  fun _ => rfl

theorem openScope (r : Reaction) : Mirrors f (Task.openScope r) (Task.openScope r) :=
  change fun _ => rfl

theorem untilCancelled (h : Mirrors f t t') :
    Mirrors f (Task.untilCancelled t) (Task.untilCancelled t') := by
  intro w
  have hw := h { w with racing := true }
  unfold Task.untilCancelled
  rw [show ({ w.map f with racing := true } : World τ) = World.map f { w with racing := true }
    from rfl, hw]
  rcases t { w with racing := true } with ⟨o, v⟩
  cases o <;> rfl

theorem cancelled (r : Runner) (p : StepPod) : Mirrors f (r.cancelled p) (r.cancelled p) :=
  .bind (.look fun _ => rfl) fun _ => .done _

end Mirrors

end Task

open StagedTests.Task (Mirrors)

namespace Surroundings.Maps

variable {f : σ → τ} {env : Surroundings σ} {env' : Surroundings τ} (h : env.Maps f env')
include h

theorem pass (m : Moment) : Mirrors f (Task.pass env m) (Task.pass env' m) :=
  .change fun w => by
    simp only [h.others m w]
    exact h.happenings _ { w with cluster := _ }

theorem pause (m : Moment) : Mirrors f (Task.pause env m) (Task.pause env' m) := by
  intro w
  have hhappenings := h.happenings (env.meanwhile m w.watchers.length w.cluster).1.happenings
    { w with cluster := (env.meanwhile m w.watchers.length w.cluster).2 }
  simp only [Task.pause, h.others m w]
  rw [show ({ w.map f with cluster := f (env.meanwhile m w.watchers.length w.cluster).2 } :
    World τ) = World.map f
      { w with cluster := (env.meanwhile m w.watchers.length w.cluster).2 } from rfl, hhappenings]
  rfl

theorem hang (n : Nat) : Mirrors f (Task.hang env n : Task σ α) (Task.hang env' n) := by
  induction n with
  | zero => exact .stall
  | succ n ih => exact .bind (h.pause .hanging) fun _ => ih

theorem call (c : Call) {op : σ → Reply α × σ} {op' : τ → Reply α × τ} (hop : Agrees f op op') :
    Mirrors f (Task.call env c op) (Task.call env' c op') := by
  refine .bind (.note _) fun _ => .bind (h.pause _) fun _ => .bind (fun w => ?_) fun reply => ?_
  · simp only [Task.effect, World.answer_map hop]
  · cases reply with
    | answered answer => exact .done answer
    | hangs =>
      rw [h.patience]
      exact h.hang env.patience

theorem isCancelled : Mirrors f (Task.isCancelled env) (Task.isCancelled env') :=
  .bind (h.pass .checking) fun _ => .look fun _ => rfl

theorem race {t : Task σ α} {t' : Task τ α} (ht : Mirrors f t t') :
    Mirrors f (Task.race env t) (Task.race env' t') := by
  refine .bind h.isCancelled fun cancelled => ?_
  cases cancelled with
  | true => exact .done none
  | false => exact ht.untilCancelled

theorem finishWatcher : Mirrors f (Task.finishWatcher env) (Task.finishWatcher env') := by
  intro w
  have hturn : env'.turn (w.map f) ((w.map f).watchers.length - 1) =
      (env.turn w (w.watchers.length - 1)).map f := h.turn w _
  simp only [Task.finishWatcher, hturn]
  generalize env.turn w (w.watchers.length - 1) = v
  have hwatchers : (v.map f).watchers = v.watchers := rfl
  rw [hwatchers]
  split <;> rfl

theorem closeScope (r : Reaction) : Mirrors f (Task.closeScope env r) (Task.closeScope env' r) := by
  refine .bind (.change fun _ => rfl) fun _ => .bind (.look fun _ => rfl) fun waits => ?_
  cases waits with
  | true => exact .bind (h.pause .closing) fun _ => .bind h.finishWatcher fun _ => .note _
  | false => exact .bind h.finishWatcher fun _ => .note _

/-! ### Observing a pod -/

theorem command (c : Collector) (words : List String) :
    Mirrors f (c.command env words) (c.command env' words) :=
  h.call _ (h.exec c.pod artifactsContainer words)

theorem unpack (directory : Path) (output : CommandOutput) :
    Mirrors f (Collector.unpack env directory output) (Collector.unpack env' directory output) := by
  refine .bind (.editDisk _) fun made => .bind (h.pause _) fun _ => ?_
  cases made with
  | false => exact .done _
  | true =>
    refine .bind (.editDisk _) fun written => .bind (h.pause _) fun _ => ?_
    cases written with
    | false => exact .done _
    | true =>
      refine .bind (.editDisk _) fun unpacked => .bind (h.pause _) fun _ =>
        .bind (.editDisk _) fun removed => .bind (h.pause _) fun _ => ?_
      cases removed with
      | false => exact .done _
      | true => cases unpacked <;> exact .done _

theorem fetch (c : Collector) (directory : Path) :
    Mirrors f (c.fetch env directory) (c.fetch env' directory) := by
  refine .bind (h.command c _) fun answer => ?_
  cases answer with
  | error e => exact .done _
  | ok output => exact h.unpack directory output

theorem collect (c : Collector) : Mirrors f (c.collect env) (c.collect env') := by
  have hrelease : Mirrors f (c.release env) (c.release env') := by
    refine .bind (h.command c _) fun answer => ?_
    cases answer with
    | ok _ => exact .done ()
    | error e => exact .warn _
  unfold Collector.collect
  cases c.directory with
  | none => exact hrelease
  | some directory =>
    refine .bind (h.fetch c directory) fun answer => ?_
    cases answer with
    | ok _ => exact hrelease
    | error e => exact .bind (.warn _) fun _ => hrelease

theorem notify (e : ContainerEvent) : Mirrors f (Observer.notify env e) (Observer.notify env' e) := by
  refine .bind (.look fun _ => rfl) fun nested => ?_
  cases nested with
  | silent | tally _ _ => exact .done ()
  | collector c =>
    dsimp only
    unfold Collector.observe
    split
    · refine .bind (.change fun _ => rfl) fun _ => .bind (h.pass .checking) fun _ =>
        .bind (.look fun _ => rfl) fun stopped => ?_
      cases stopped with
      | true => exact .warn _
      | false =>
        intro w
        have hcollect := h.collect c { w with collecting := true }
        simp only [if_false, Bool.false_eq_true, Collector.untilStopped]
        rw [show ({ w.map f with collecting := true } : World τ) =
          World.map f { w with collecting := true } from rfl, hcollect]
        rcases c.collect env { w with collecting := true } with ⟨o, v⟩
        cases o <;> rfl
    · exact .done ()

theorem deliver (e : ContainerEvent) :
    Mirrors f (Observer.deliver env e) (Observer.deliver env' e) := by
  refine .bind (h.notify e) fun _ => .change fun w => ?_
  have hclock : env'.clock (w.map f).cluster = env.clock w.cluster := h.clock w.cluster
  rw [hclock]
  rfl

/-! ### Running a pod -/

variable (r : Runner) (p : StepPod)

theorem sleep (looks : Nat) : Mirrors f (r.sleep env looks) (r.sleep env' looks) := by
  unfold Runner.sleep
  split
  · exact .done ()
  · exact h.pause .sleeping

theorem awaitGone (name : String) (n : Nat) :
    Mirrors f (r.awaitGone env name n) (r.awaitGone env' name n) := by
  induction n with
  | zero => exact .stall
  | succ n ih =>
    refine .bind (h.call _ (h.get name)) fun answer => ?_
    cases answer with
    | error e => exact .done _
    | ok _ => exact .bind (h.sleep r n) fun _ => ih

theorem place : Mirrors f (Runner.create env p) (Runner.create env' p) := by
  refine .bind (h.call _ (h.create p.pod)) fun answer => ?_
  cases answer <;> exact .done _

theorem createOrRestart : Mirrors f (r.createOrRestart env p) (r.createOrRestart env' p) := by
  refine .bind (h.call _ (h.delete p.name)) fun answer => ?_
  cases answer with
  | ok _ =>
    rw [h.patience]
    refine .bind (h.awaitGone r p.name env.patience) fun gone => ?_
    cases gone with
    | ok _ => exact h.place p
    | error e => exact .done _
  | error e =>
    dsimp only
    split
    · exact h.place p
    · exact .done _

theorem deliverAll (events : List ContainerEvent) :
    Mirrors f (Runner.deliverAll env events) (Runner.deliverAll env' events) := by
  induction events with
  | nil => exact .done true
  | cons e rest ih =>
    refine .bind (h.race (h.deliver e)) fun answer => ?_
    cases answer with
    | none => exact .done false
    | some _ => exact ih

theorem watch (n : Nat) (t : Tracker) : Mirrors f (r.watch env p n t) (r.watch env' p n t) := by
  induction n generalizing t with
  | zero => exact .stall
  | succ n ih =>
    refine .bind (h.race (h.call _ (h.get p.name))) fun answer => ?_
    match answer with
    | none => exact .cancelled r p
    | some (.error e) => exact .done _
    | some (.ok pod) =>
      refine .bind (h.deliverAll _) fun delivered => ?_
      cases delivered with
      | false => exact .cancelled r p
      | true =>
        simp only [if_true]
        split
        · exact .done _
        · exact .done _
        · refine .bind (h.race (h.sleep r n)) fun slept => ?_
          cases slept with
          | none => exact .cancelled r p
          | some _ => exact ih _

/-- The run of a pod does not depend on what else the surroundings keep. -/
theorem run : Mirrors f (r.run env p) (r.run env' p) := by
  unfold Runner.run
  split
  · exact .bind (.note _) fun _ => .done _
  · refine .bind h.isCancelled fun cancelled => ?_
    cases cancelled with
    | true => exact .cancelled r p
    | false =>
      refine .bind (h.createOrRestart r p) fun created => ?_
      cases created with
      | error e => exact .done _
      | ok _ =>
        rw [h.patience]
        refine .bind (.openScope _) fun _ => .bind (h.watch r p env.patience .fresh) fun result =>
          .bind (h.closeScope _) fun _ => .bind ?_ fun _ => .done _
        cases result with
        | ok _ => exact .done ()
        | error e => exact .warn _

end Surroundings.Maps

end StagedTests
