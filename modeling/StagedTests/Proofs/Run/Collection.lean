import StagedTests.Proofs.Run.Log
import StagedTests.Proofs.Run.Transcript
import StagedTests.Run.Rehearsal

/-!
# What a collector does

A collector is told of events and may be cancelled, between the events and wherever it is suspended.
The commands that it begins are the first ones of a single collection, begun behind the termination
that it waits for and before any cancellation. If nobody cancels it and everything is answered, that
termination brings all of them, whatever comes of each, so the container of the artifacts is let go
once.
-/

namespace StagedTests

variable {σ : Type}

open StagedTests.Task (Keeps Meets)

/-! ## Orders -/

inductive Order
  | event (e : ContainerEvent)
  | cancel

def ContainerEvent.ends (container : String) (e : ContainerEvent) : Bool :=
  e.isTerminal && e.container == container

def Order.ends (container : String) : Order → Bool
  | .event e => e.ends container
  | .cancel => false

def World.write (w : World (σ × List Sight)) (x : Sight) : World (σ × List Sight) :=
  { w with cluster := (w.cluster.1, w.cluster.2 ++ [x]) }

/-- What an order leads to. Nobody waits for the end of an event that is never dealt with. -/
def Observer.obey (env : Surroundings σ) (w : World (σ × List Sight)) :
    Order → World (σ × List Sight)
  | .event e => (Observer.notify env.traced e (w.write (.told e))).2
  | .cancel =>
    { w.write .stopped with observer := w.observer.cancel (env.clock w.cluster.1) }

/-- The observer is cancelled only where it is suspended, or about to look whether it was. -/
def Surroundings.StopsAtSuspensions (env : Surroundings σ) : Prop :=
  ∀ m watchers s, (env.meanwhile m watchers s).1.happenings.any Happening.isStop = true →
    m = .checking ∨ (env.meanwhile m watchers s).1.suspended = true

/-! ## What is seen of commands -/

def begunIn (sights : List Sight) : List Call :=
  sights.filterMap fun
    | .moment (.calling c) => some c
    | _ => none

def answeredIn (sights : List Sight) : List Call :=
  sights.filterMap fun
    | .ran pod container words (.answered _) => some (.exec pod container words)
    | _ => none

theorem begunIn_append (l m : List Sight) : begunIn (l ++ m) = begunIn l ++ begunIn m :=
  List.filterMap_append

theorem answeredIn_append (l m : List Sight) : answeredIn (l ++ m) = answeredIn l ++ answeredIn m :=
  List.filterMap_append

def Told (container : String) (sights : List Sight) : Prop :=
  ∃ e, .told e ∈ sights ∧ e.ends container = true

/-- Calls are begun only behind the end of the container and before any cancellation. -/
def Warranted (container : String) (sights : List Sight) : Prop :=
  ∀ before c after, sights = before ++ .moment (.calling c) :: after →
    Told container before ∧ .stopped ∉ before

def Collector.calls (c : Collector) : List Call :=
  c.commands.map (.exec c.pod artifactsContainer)

section

variable {container : String} {sights more : List Sight}

theorem Told.append (h : Told container sights) (more : List Sight) :
    Told container (sights ++ more) := by
  obtain ⟨e, he, hends⟩ := h
  exact ⟨e, List.mem_append_left more he, hends⟩

theorem Warranted.append (h : Warranted container sights)
    (hmore : ∀ before c after, more = before ++ .moment (.calling c) :: after →
      Told container (sights ++ before) ∧ .stopped ∉ sights ++ before) :
    Warranted container (sights ++ more) := by
  intro before c after heq
  rcases append_eq_append_cons heq with ⟨_, hsights, -⟩ | ⟨a, rfl, hrest⟩
  · exact h before c _ hsights
  · exact hmore a c after hrest

theorem Warranted.quiet (h : Warranted container sights) (hmore : begunIn more = []) :
    Warranted container (sights ++ more) := by
  refine h.append fun before c after heq => ?_
  rw [heq, begunIn_append] at hmore
  exact absurd (List.append_eq_nil_iff.mp hmore).2 (List.cons_ne_nil _ _)

end

/-! ## One collector -/

theorem Collector.cancel_cancel (c : Collector) : c.cancel.cancel = c.cancel := by
  simp only [cancel, Token.cancel_of_isCancelled (Token.isCancelled_cancel _ _)]

/-- The observer has this collector and nobody else watches; these calls were begun, and these
answered. -/
structure Tends (racing : Bool) (c : Collector) (begun answered : List Call)
    (w : World (σ × List Sight)) : Prop where
  nested : w.observer.nested = .collector c
  alone : w.watchers = []
  racing_eq : w.racing = racing
  cancelled_iff : c.cancelled = true ↔ .stopped ∈ w.cluster.2
  stopped_iff : c.stop.isCancelled = true ↔ .stopped ∈ w.cluster.2
  begun_eq : begunIn w.cluster.2 = begun
  answered_eq : answeredIn w.cluster.2 = answered
  warranted : Warranted c.container w.cluster.2

namespace Tends

variable {racing : Bool} {c : Collector} {begun answered : List Call}
  {w w' : World (σ × List Sight)}

theorem of_eq (h : Tends racing c begun answered w)
    (hnested : w'.observer.nested = w.observer.nested) (halone : w'.watchers = w.watchers)
    (hracing : w'.racing = w.racing)
    (hsights : w'.cluster.2 = w.cluster.2) : Tends racing c begun answered w' where
  nested := hnested.trans h.nested
  alone := halone.trans h.alone
  racing_eq := hracing.trans h.racing_eq
  cancelled_iff := by rw [hsights]; exact h.cancelled_iff
  stopped_iff := by rw [hsights]; exact h.stopped_iff
  begun_eq := by rw [hsights]; exact h.begun_eq
  answered_eq := by rw [hsights]; exact h.answered_eq
  warranted := by rw [hsights]; exact h.warranted

theorem write (h : Tends racing c begun answered w) (sights : List Sight) {s : σ}
    (hstopped : .stopped ∉ sights)
    (hwarranted : Warranted c.container (w.cluster.2 ++ sights)) :
    Tends racing c (begun ++ begunIn sights) (answered ++ answeredIn sights)
      { w with cluster := (s, w.cluster.2 ++ sights) } where
  nested := h.nested
  alone := h.alone
  racing_eq := h.racing_eq
  cancelled_iff := by simpa [hstopped] using h.cancelled_iff
  stopped_iff := by simpa [hstopped] using h.stopped_iff
  begun_eq := by rw [begunIn_append, h.begun_eq]
  answered_eq := by rw [answeredIn_append, h.answered_eq]
  warranted := hwarranted

theorem cancel (h : Tends racing c begun answered w) {o : Observer}
    (hnested : o.nested = .collector c.cancel) {s : σ} :
    Tends racing c.cancel begun answered
      { w with cluster := (s, w.cluster.2 ++ [.stopped]), observer := o } where
  nested := hnested
  alone := h.alone
  racing_eq := h.racing_eq
  cancelled_iff := by simp [Collector.cancel]
  stopped_iff := by simp [Collector.cancel, Token.isCancelled_cancel]
  begun_eq := by
    rw [begunIn_append, h.begun_eq]
    exact List.append_nil _
  answered_eq := by
    rw [answeredIn_append, h.answered_eq]
    exact List.append_nil _
  warranted := h.warranted.quiet rfl

end Tends

section

variable {env : Surroundings σ} {racing : Bool} {c : Collector} {begun answered : List Call}
  {w : World (σ × List Sight)}

/-- What others do where nobody watches: they cancel the observer, and leave the task alone. -/
structure Disturbs (stops : Bool) (c : Collector) (w v : World (σ × List Sight)) : Prop where
  nested : v.observer.nested = .collector (if stops then c.cancel else c)
  alone : v.watchers = []
  racing : v.racing = w.racing
  collecting : v.collecting = w.collecting
  sights : v.cluster.2 = w.cluster.2

theorem Disturbs.trans {first second : Bool} {u v w : World (σ × List Sight)}
    (h : Disturbs first c u v) (h' : Disturbs second (if first then c.cancel else c) v w) :
    Disturbs (first || second) c u w where
  nested := by
    rw [h'.nested]
    cases first <;> cases second <;> simp [Collector.cancel_cancel]
  alone := h'.alone
  racing := h'.racing.trans h.racing
  collecting := h'.collecting.trans h.collecting
  sights := h'.sights.trans h.sights

variable (env) in
theorem happen_disturbs (x : Happening) {w : World (σ × List Sight)}
    (hnested : w.observer.nested = .collector c) (halone : w.watchers = []) :
    Disturbs x.isStop c w (env.traced.happen w x) := by
  cases x with
  | cancel reason =>
    simp only [Surroundings.happen, World.cancel]
    split <;> exact ⟨hnested, halone, rfl, rfl, rfl⟩
  | turn i =>
    simp only [Surroundings.happen, env.traced.turn_of_watchers_eq_nil halone]
    exact ⟨hnested, halone, rfl, rfl, rfl⟩
  | cancelObserver => exact ⟨by simp only [Surroundings.happen, Observer.cancel, hnested]; rfl,
      halone, rfl, rfl, rfl⟩

theorem happenings_disturb (l : List Happening) {w : World (σ × List Sight)}
    (hnested : w.observer.nested = .collector c) (halone : w.watchers = []) :
    Disturbs (l.any Happening.isStop) c w (l.foldl env.traced.happen w) := by
  induction l generalizing w c with
  | nil => exact ⟨hnested, halone, rfl, rfl, rfl⟩
  | cons x l ih =>
    have hx := happen_disturbs env x hnested halone
    exact hx.trans (ih hx.nested hx.alone)

def Surroundings.stopsAt (env : Surroundings σ) (m : Moment) (w : World (σ × List Sight)) : Bool :=
  (env.meanwhile m w.watchers.length w.cluster.1).1.happenings.any Happening.isStop

variable (env) in
theorem Tends.moment (h : Tends racing c begun answered w) (m : Moment)
    (hwarranted : Warranted c.container (w.cluster.2 ++ [.moment m])) :
    Tends racing (if env.stopsAt m w then c.cancel else c) (begun ++ begunIn [.moment m]) answered
        (Task.pass env.traced m w).2 ∧
      (Task.pass env.traced m w).2.collecting = w.collecting ∧
      w.cluster.2 <+: (Task.pass env.traced m w).2.cluster.2 := by
  set p := env.meanwhile m w.watchers.length w.cluster.1 with hp
  have hdisturbs : Disturbs (env.stopsAt m w) c
      { w with cluster := (p.2, w.cluster.2 ++ p.1.sights m) } (Task.pass env.traced m w).2 :=
    happenings_disturb p.1.happenings h.nested h.alone
  have hwritten := h.write [.moment m] (s := p.2) (by simp) hwarranted
  rw [show answered ++ answeredIn [.moment m] = answered from List.append_nil _] at hwritten
  refine ⟨?_, hdisturbs.collecting, ?_⟩
  · cases hstops : env.stopsAt m w with
    | false =>
      have hsights : p.1.sights m = [.moment m] := by
        rw [Pause.sights, show p.1.happenings.any Happening.isStop = false from hstops]
        rfl
      rw [hstops, hsights] at hdisturbs
      exact hwritten.of_eq (hdisturbs.nested.trans h.nested.symm)
        (hdisturbs.alone.trans h.alone.symm) hdisturbs.racing hdisturbs.sights
    | true =>
      have hsights : p.1.sights m = [.moment m] ++ [.stopped] := by
        rw [Pause.sights, show p.1.happenings.any Happening.isStop = true from hstops]
        rfl
      rw [hstops, hsights, ← List.append_assoc] at hdisturbs
      exact (hwritten.cancel hdisturbs.nested).of_eq rfl
        (hdisturbs.alone.trans h.alone.symm) hdisturbs.racing hdisturbs.sights
  · rw [hdisturbs.sights]
    exact List.prefix_append _ _

end

/-! ## A collection -/

/-- A collection has come to its end in some way: to a good one, or it was cancelled, or it is never
answered, or it was dropped with the task that it was part of. -/
def Ended (racing : Bool) (c : Collector) (w : World (σ × List Sight)) : Prop :=
  ∃ c' begun answered, (c' = c ∨ c' = c.cancel) ∧ Tends racing c' begun answered w ∧
    begun <+: c.calls ∧
    (begun = c.calls ∧ answered = c.calls ∨ racing = true ∨ .stopped ∈ w.cluster.2 ∨ w.Hanging)

theorem Ended.of_eq {racing : Bool} {c : Collector} {w w' : World (σ × List Sight)}
    (h : Ended racing c w)
    (hnested : w'.observer.nested = w.observer.nested) (halone : w'.watchers = w.watchers)
    (hracing : w'.racing = w.racing) (hsights : w'.cluster.2 = w.cluster.2) :
    Ended racing c w' := by
  obtain ⟨c', begun, answered, hc', htends, hprefix, hwhy⟩ := h
  exact ⟨c', begun, answered, hc', htends.of_eq hnested halone hracing hsights, hprefix,
    hwhy.imp_right (.imp_right (.imp (fun h => by rwa [hsights])
      fun ⟨x, hx, hh⟩ => ⟨x, by rwa [hsights], hh⟩))⟩

structure Works (racing : Bool) (c : Collector) (begun answered : List Call)
    (w : World (σ × List Sight)) : Prop where
  tends : Tends racing c begun answered w
  going : c.stop.isCancelled = false
  collecting : w.collecting = true
  told : Told c.container w.cluster.2
  isPrefix : begun <+: c.calls

section

variable {env : Surroundings σ} (henv : env.StopsAtSuspensions) {racing : Bool} {c : Collector}
  {begun answered : List Call}

theorem Works.not_stopped {w : World (σ × List Sight)} (h : Works racing c begun answered w) :
    .stopped ∉ w.cluster.2 := fun hmem => by
  have hgoing := h.going
  rw [h.tends.stopped_iff.mpr hmem] at hgoing
  cases hgoing

include henv

/-- A collection that is suspended goes on unless it was cancelled or is dropped. -/
theorem pause_works {m : Moment} {next : List Call} (hm : m ≠ .checking)
    (hbegun : begun ++ begunIn [.moment m] = next) (hnext : next <+: c.calls) :
    Meets (Works racing c begun answered) (Task.pause env.traced m)
      (fun _ => Works racing c next answered) (Ended racing c) := by
  subst hbegun
  intro w hw
  have hwarranted : Warranted c.container (w.cluster.2 ++ [.moment m]) := by
    refine hw.tends.warranted.append fun before call after heq => ?_
    obtain ⟨rfl, -⟩ : before = [] ∧ after = [] := by
      cases before with
      | nil => exact ⟨rfl, (List.cons.inj heq).2.symm⟩
      | cons _ _ => simp at heq
    rw [List.append_nil]
    exact ⟨hw.told, hw.not_stopped⟩
  obtain ⟨htends, hcollecting, hsights⟩ := hw.tends.moment env m hwarranted
  have hpause : Task.pause env.traced m w =
      (if (env.meanwhile m w.watchers.length w.cluster.1).1.suspended then
        Task.resume (Task.pass env.traced m w).2 else .returned (),
      (Task.pass env.traced m w).2) := rfl
  generalize (Task.pass env.traced m w).2 = v at htends hcollecting hsights hpause
  rw [hpause]
  have hcollecting' : v.collecting = true := hcollecting.trans hw.collecting
  cases hstops : env.stopsAt m w with
  | false =>
    rw [hstops] at htends
    refine ⟨fun _ _ heq => ?_, fun hnot => ?_⟩
    · obtain ⟨-, rfl⟩ := Prod.mk.inj heq
      obtain ⟨e, he, hends⟩ := hw.told
      exact ⟨htends, hw.going, hcollecting', ⟨e, hsights.subset he, hends⟩, hnext⟩
    · refine ⟨c, _, _, .inl rfl, htends, hnext, .inr (.inl ?_)⟩
      have hnotStopped : v.observer.nested.isStopped = false := by
        rw [htends.nested]
        exact hw.going
      rw [← htends.racing_eq]
      unfold Task.resume at hnot
      split at hnot
      · split at hnot
        · rename_i hdropped
          exact (Bool.and_eq_true_iff.mp hdropped).1
        · rw [hnotStopped, Bool.and_false] at hnot
          cases hnot
      · cases hnot
  | true =>
    rw [hstops] at htends
    have hstopped : v.observer.nested.isStopped = true := by
      rw [htends.nested]
      exact Token.isCancelled_cancel _ _
    refine ⟨fun _ _ heq => ?_, fun _ => ?_⟩
    -- the task is suspended here, so the collection is abandoned at once
    · rw [(henv m _ _ hstops).resolve_left hm] at heq
      unfold Task.resume at heq
      simp only [if_true, hcollecting', hstopped] at heq
      split at heq <;> cases heq
    · exact ⟨c.cancel, _, _, .inr rfl, htends, hnext,
        .inr (.inr (.inl (htends.stopped_iff.mp (Token.isCancelled_cancel _ _))))⟩

theorem hang_works {α : Type} (n : Nat) :
    Meets (fun w => Works racing c begun answered w ∧ w.Hanging)
      (Task.hang env.traced n : Task (σ × List Sight) α) (fun _ _ => False) (Ended racing c) := by
  induction n with
  | zero =>
    exact fun w hw => ⟨fun _ _ heq => (nomatch heq), fun _ =>
      ⟨c, _, _, .inl rfl, hw.1.tends, hw.1.isPrefix, .inr (.inr (.inr hw.2))⟩⟩
  | succ n ih =>
    refine .bind (Q := fun _ w => Works racing c begun answered w ∧ w.Hanging) ?_ fun _ => ih
    intro w hw
    obtain ⟨hreturned, hended⟩ := pause_works henv (m := .hanging) (fun h => nomatch h)
      (List.append_nil _) hw.1.isPrefix w hw.1
    exact ⟨fun a w' heq => ⟨hreturned a w' heq,
      ((keptAtPauses_hanging env).pause .hanging).returned hw.2 heq⟩, hended⟩

end

/-! ### Commands -/

def AtCommand (racing : Bool) (c : Collector) (k : Nat) : World (σ × List Sight) → Prop :=
  Works racing c (c.calls.take k) (c.calls.take k)

section

variable {env : Surroundings σ} (henv : env.StopsAtSuspensions) (racing : Bool) (c : Collector)
include henv

theorem filing_atCommand (k : Nat) :
    MetByFiling env.traced (AtCommand racing c k) (Ended racing c) where
  pause := pause_works henv (fun h => nomatch h) (List.append_nil _) (List.take_prefix _ _)
  warned := fun _ _ hw => { hw with tends := hw.tends.of_eq rfl rfl rfl rfl }
  disk := fun _ _ hw => { hw with tends := hw.tends.of_eq rfl rfl rfl rfl }

theorem command_atCommand (k : Nat) {words : List String} (hk : c.commands[k]? = some words) :
    Meets (AtCommand racing c k) (c.command env.traced words) (fun _ => AtCommand racing c (k + 1))
      (Ended racing c) := by
  have htake : c.calls.take (k + 1) =
      c.calls.take k ++ [.exec c.pod artifactsContainer words] := by
    rw [List.take_add_one, Collector.calls, List.getElem?_map, hk]
    rfl
  refine .bind (Q := fun _ => AtCommand racing c k) (.change fun w hw =>
    { hw with tends := hw.tends.of_eq rfl rfl rfl rfl }) fun _ =>
    .bind (pause_works henv (fun h => nomatch h) htake.symm (List.take_prefix _ _)) fun _ =>
    .bind (Q := fun reply w => match reply with
      | .answered _ => AtCommand racing c (k + 1) w
      | .hangs => Works racing c (c.calls.take (k + 1)) (c.calls.take k) w ∧ w.Hanging) ?_
      fun reply => ?_
  · intro w hw
    refine ⟨fun reply w' heq => ?_, fun hnot => nomatch hnot⟩
    have hanswer := Task.effect_eq_returned heq
    rcases hop : env.pods.exec c.pod artifactsContainer words w.cluster.1 with ⟨reply', s⟩
    have hwrite : env.traced.pods.exec c.pod artifactsContainer words w.cluster = _ :=
      writing_eq (.ran c.pod artifactsContainer words) hop
    have hran := hw.tends.write [.ran c.pod artifactsContainer words reply'] (s := s) (by simp)
      (hw.tends.warranted.quiet rfl)
    rw [show _ ++ begunIn [.ran c.pod artifactsContainer words reply'] = c.calls.take (k + 1) from
      List.append_nil _] at hran
    have htold := hw.told.append [.ran c.pod artifactsContainer words reply']
    cases reply' with
    | hangs =>
      rw [World.answer_of_hangs _ hwrite] at hanswer
      cases hanswer
      rw [show _ ++ answeredIn [_] = c.calls.take k from List.append_nil _] at hran
      exact ⟨⟨hran, hw.going, hw.collecting, htold, hw.isPrefix⟩, _,
        List.mem_append_right _ (List.mem_singleton_self _), rfl⟩
    | answered a =>
      rw [World.answer_of_answered _ hwrite] at hanswer
      cases hanswer
      rw [show c.calls.take k ++ answeredIn [.ran c.pod artifactsContainer words (.answered a)] =
        c.calls.take (k + 1) from htake.symm] at hran
      exact ⟨hran.of_eq rfl rfl rfl rfl, hw.going, hw.collecting, htold, hw.isPrefix⟩
  · cases reply with
    | answered a => exact .done fun _ hw => hw
    | hangs =>
      exact (hang_works henv _).weaken (fun _ hw => hw) (fun _ _ hw => hw.elim) fun _ hw => hw

theorem collect_ended :
    Meets (AtCommand racing c 0) (c.collect env.traced) (fun _ => Ended racing c)
      (Ended racing c) := by
  refine (Collector.collect_meets (filing_atCommand henv racing c) c fun k words hk =>
    command_atCommand henv racing c k hk).weaken (fun _ hw => hw) (fun _ w hw => ?_) fun _ hw => hw
  have hlength : c.calls.take c.commands.length = c.calls :=
    List.take_of_length_le (Nat.le_of_eq (List.length_map _))
  have htends := hw.tends
  rw [hlength] at htends
  exact ⟨c, c.calls, c.calls, .inl rfl, htends, List.prefix_rfl, .inl ⟨rfl, rfl⟩⟩

end

/-- The end of the container was told of, and nothing was begun. -/
def Starts (racing : Bool) (c : Collector) (w : World (σ × List Sight)) : Prop :=
  (Tends racing c [] [] w ∨ Tends racing c.cancel [] [] w) ∧ Told c.container w.cluster.2

theorem Starts.pass {env : Surroundings σ} {racing : Bool} {c : Collector}
    {w : World (σ × List Sight)} (h : Tends racing c [] [] w)
    (htold : Told c.container w.cluster.2) :
    Starts racing c (Task.pass env.traced .checking w).2 := by
  obtain ⟨htends, -, hsights⟩ := h.moment env .checking (h.warranted.quiet rfl)
  obtain ⟨e, he, hends⟩ := htold
  refine ⟨?_, e, hsights.subset he, hends⟩
  cases hstops : env.stopsAt .checking w with
  | false => exact .inl (by rw [hstops] at htends; exact htends)
  | true => exact .inr (by rw [hstops] at htends; exact htends)

theorem Starts.ended {racing : Bool} {c : Collector} {w : World (σ × List Sight)}
    (h : Starts racing c w) (hstopped : w.observer.nested.isStopped = true) : Ended racing c w := by
  rcases h.1 with htends | htends
  all_goals
    rw [htends.nested] at hstopped
    exact ⟨_, [], [], by simp, htends, List.nil_prefix,
      .inr (.inr (.inl (htends.stopped_iff.mp hstopped)))⟩

theorem Starts.atCommand {racing : Bool} {c : Collector} {w : World (σ × List Sight)}
    (h : Starts racing c w) (hgoing : w.observer.nested.isStopped = false) :
    AtCommand racing c 0 { w with collecting := true } := by
  rcases h.1 with htends | htends <;> rw [htends.nested] at hgoing
  · exact ⟨htends.of_eq rfl rfl rfl rfl, hgoing, rfl, h.2, List.nil_prefix⟩
  · have hstopped : Nested.isStopped (.collector c.cancel) = true := Token.isCancelled_cancel _ _
    rw [hstopped] at hgoing
    cases hgoing

/-- The end of the container starts a collection, which ends in one of these ways. -/
theorem observe_ended {env : Surroundings σ} (henv : env.StopsAtSuspensions) {racing : Bool}
    {c : Collector} {e : ContainerEvent} (hstarts : c.startsAt e = true) :
    Meets (fun w => Tends racing c [] [] w ∧ Told c.container w.cluster.2) (c.observe env.traced e)
      (fun _ => Ended racing { c with collected := true })
      (Ended racing { c with collected := true }) := by
  unfold Collector.observe
  rw [if_pos hstarts]
  refine .bind (Q := fun _ w => Tends racing { c with collected := true } [] [] w ∧
      Told c.container w.cluster.2) (.change fun w ⟨h, htold⟩ => ⟨⟨rfl, h.alone, h.racing_eq,
        h.cancelled_iff, h.stopped_iff, h.begun_eq, h.answered_eq, h.warranted⟩, htold⟩) fun _ =>
    .bind (Q := fun _ => Starts racing { c with collected := true })
      (.change fun w ⟨h, htold⟩ => Starts.pass h htold) fun _ =>
    .bind (Q := fun stopped w => Starts racing { c with collected := true } w ∧
      w.observer.nested.isStopped = stopped) (.look fun _ hw => ⟨hw, rfl⟩) fun stopped => ?_
  cases stopped with
  | true => exact .change fun w hw => (hw.1.ended hw.2).of_eq rfl rfl rfl rfl
  | false =>
    have hcollect := collect_ended henv racing { c with collected := true }
    exact Collector.untilStopped_meets hcollect (fun w hw => hw.1.atCommand hw.2)
      (fun _ hw => hw.of_eq rfl rfl rfl rfl) (fun _ hw => hw.of_eq rfl rfl rfl rfl)
      fun _ hw => hw.of_eq rfl rfl rfl rfl

/-! ## Sequences of orders -/

/-- The collector waits: nothing was begun, and the end of its container was told of only behind a
cancellation. -/
def Waits (racing : Bool) (c : Collector) (told : Bool) (w : World (σ × List Sight)) : Prop :=
  (Tends racing c [] [] w ∨ Tends racing c.cancel [] [] w) ∧ (told = true → .stopped ∈ w.cluster.2)

def Attends (racing : Bool) (c : Collector) (told : Bool) (w : World (σ × List Sight)) : Prop :=
  Waits racing c told w ∨ Ended racing { c with collected := true } w

section

variable {env : Surroundings σ} {racing : Bool} {c : Collector} {begun answered : List Call}
  {told : Bool} {w : World (σ × List Sight)}

theorem obey_event (e : ContainerEvent) (hnested : w.observer.nested = .collector c) :
    Observer.obey env w (.event e) = (c.observe env.traced e (w.write (.told e))).2 := by
  have hlook : Task.look (fun w : World (σ × List Sight) => w.observer.nested)
      (w.write (.told e)) = (.returned (.collector c), w.write (.told e)) := by
    rw [← hnested]
    rfl
  rw [Observer.obey, Observer.notify, Task.bind_of_returned _ hlook]

theorem obey_event_of_startsAt {e : ContainerEvent} (hnested : w.observer.nested = .collector c)
    (hstarts : c.startsAt e = false) : Observer.obey env w (.event e) = w.write (.told e) := by
  rw [obey_event e hnested, Collector.observe, if_neg (Bool.eq_false_iff.mp hstarts)]
  rfl

theorem Tends.tell (h : Tends racing c begun answered w) (e : ContainerEvent) :
    Tends racing c begun answered (w.write (.told e)) := by
  have hwritten := h.write [.told e] (s := w.cluster.1) (by simp)
    (h.warranted.quiet rfl)
  rwa [show begun ++ begunIn [.told e] = begun from List.append_nil _,
    show answered ++ answeredIn [.told e] = answered from List.append_nil _] at hwritten

theorem Ended.tell (h : Ended racing c w) (e : ContainerEvent) :
    Ended racing c (w.write (.told e)) := by
  obtain ⟨c', begun, answered, hc', htends, hprefix, hwhy⟩ := h
  exact ⟨c', begun, answered, hc', htends.tell e, hprefix,
    hwhy.imp_right (.imp_right (.imp (List.mem_append_left _)
      fun ⟨x, hx, hh⟩ => ⟨x, List.mem_append_left _ hx, hh⟩))⟩

theorem Ended.stopped (h : Ended racing c w) {o : Observer}
    (hnested : o.nested = w.observer.nested.cancel) :
    Ended racing c { w.write .stopped with observer := o } := by
  obtain ⟨c', begun, answered, hc', htends, hprefix, -⟩ := h
  rw [htends.nested] at hnested
  refine ⟨c'.cancel, begun, answered, .inr ?_, htends.cancel hnested, hprefix,
    .inr (.inr (.inl (List.mem_append_right _ (List.mem_singleton_self _))))⟩
  rcases hc' with rfl | rfl
  · rfl
  · exact Collector.cancel_cancel c

/-- An order leaves the collector waiting, or brings its collection to an end. -/
theorem obey_attends (henv : env.StopsAtSuspensions) (hfresh : c.collected = false)
    (h : Attends racing c told w) (o : Order) :
    Attends racing c (told || o.ends c.container) (Observer.obey env w o) := by
  cases o with
  | cancel =>
    have hcancel : (w.observer.cancel (env.clock w.cluster.1)).nested = w.observer.nested.cancel :=
      rfl
    rw [Order.ends, Bool.or_false]
    rcases h with ⟨htends, -⟩ | hended
    · refine .inl ⟨.inr ?_, fun _ => List.mem_append_right _ (List.mem_singleton_self _)⟩
      rcases htends with htends | htends
      · exact htends.cancel (by rw [hcancel, htends.nested]; rfl)
      · have hagain := htends.cancel (s := w.cluster.1) (by rw [hcancel, htends.nested]; rfl)
        rwa [Collector.cancel_cancel] at hagain
    · exact .inr (hended.stopped hcancel)
  | event e =>
    have hstarts : ∀ c : Collector,
        c.startsAt e = (e.ends c.container && !c.collected && !c.cancelled) := fun _ => rfl
    rcases h with ⟨htends | htends, htold⟩ | hended
    · cases hc : c.startsAt e with
      | true =>
        have hends : e.ends c.container = true := by
          rw [hstarts, Bool.and_assoc] at hc
          exact (Bool.and_eq_true_iff.mp hc).1
        rw [obey_event e htends.nested]
        exact .inr ((observe_ended henv hc).ends ⟨htends.tell e, e,
          List.mem_append_right _ (List.mem_singleton_self _), hends⟩)
      | false =>
        rw [obey_event_of_startsAt htends.nested hc]
        refine .inl ⟨.inl (htends.tell e), fun hends => List.mem_append_left _ ?_⟩
        rcases Bool.or_eq_true_iff.mp hends with htold' | hends
        · exact htold htold'
        · rw [hstarts, show e.ends c.container = true from hends, hfresh] at hc
          exact htends.cancelled_iff.mp (by simpa using hc)
    -- it was cancelled while it waited, so no event starts anything
    · rw [obey_event_of_startsAt htends.nested (by rw [hstarts]; simp [Collector.cancel])]
      exact .inl ⟨.inr (htends.tell e), fun _ =>
        List.mem_append_left _ (htends.cancelled_iff.mp rfl)⟩
    -- it has had its collection
    · obtain ⟨c', begun, answered, hc', htends, hrest⟩ := hended
      have hcollected : c'.collected = true := by rcases hc' with rfl | rfl <;> rfl
      rw [obey_event_of_startsAt htends.nested (by rw [hstarts]; simp [hcollected])]
      exact .inr (Ended.tell ⟨c', begun, answered, hc', htends, hrest⟩ e)

theorem obeyAll_attends (henv : env.StopsAtSuspensions) (hfresh : c.collected = false)
    (h : Attends racing c told w) (orders : List Order) :
    Attends racing c (told || orders.any (Order.ends c.container))
      (orders.foldl (Observer.obey env) w) := by
  induction orders generalizing w told with
  | nil => rwa [List.any_nil, Bool.or_false]
  | cons o rest ih =>
    rw [List.any_cons, ← Bool.or_assoc]
    exact ih (obey_attends henv hfresh h o)

end

namespace Collector

/-- What a collector does is what it should: it begins the first commands of one collection, behind
the end of its container and before any cancellation; and all of them, if that end was told of,
nobody has cancelled anything and everything was answered. -/
structure Performs (c : Collector) (racing told : Bool) (sights : List Sight) : Prop where
  isPrefix : begunIn sights <+: c.calls
  warranted : Warranted c.container sights
  complete : racing = false → told = true → .stopped ∉ sights →
    (∀ x ∈ sights, x.isHanging = false) → begunIn sights = c.calls ∧ answeredIn sights = c.calls

theorem performs_of_attends {c : Collector} {racing told : Bool} {w : World (σ × List Sight)}
    (h : Attends racing c told w) : c.Performs racing told w.cluster.2 := by
  have hwaits : ∀ c', c'.container = c.container → Tends racing c' [] [] w →
      (told = true → .stopped ∈ w.cluster.2) → c.Performs racing told w.cluster.2 := by
    intro c' hcontainer htends htold
    refine ⟨?_, hcontainer ▸ htends.warranted, fun _ htold' hstopped _ => ?_⟩
    · rw [htends.begun_eq]
      exact List.nil_prefix
    · exact absurd (htold htold') hstopped
  rcases h with ⟨htends | htends, htold⟩ | ⟨c', begun, answered, hc', htends, hprefix, hwhy⟩
  · exact hwaits c rfl htends htold
  · exact hwaits c.cancel rfl htends htold
  · have hcontainer : c'.container = c.container := by rcases hc' with rfl | rfl <;> rfl
    refine ⟨?_, hcontainer ▸ htends.warranted, fun hracing _ hstopped hanswered => ?_⟩
    · rw [htends.begun_eq]
      exact hprefix
    · rw [htends.begun_eq, htends.answered_eq]
      rcases hwhy with hall | hdropped | hmem | ⟨x, hx, hh⟩
      · exact hall
      · rw [hracing] at hdropped
        cases hdropped
      · exact absurd hmem hstopped
      · rw [hanswered x hx] at hh
        cases hh

/-- A collector performs its collection once, whatever it is told and whenever it is cancelled. -/
theorem fresh_performs {env : Surroundings σ} (henv : env.StopsAtSuspensions) {w : World σ}
    {pod container : String} {directory : Option Path}
    (hnested : w.observer.nested = .collector (.fresh pod container directory))
    (halone : w.watchers = []) (orders : List Order) :
    (fresh pod container directory).Performs w.racing (orders.any (Order.ends container))
      (orders.foldl (Observer.obey env) (w.traced [])).cluster.2 := by
  have hstart : Attends w.racing (fresh pod container directory) false (w.traced []) :=
    .inl ⟨.inl ⟨hnested, halone, rfl, by simp [fresh, World.traced, World.map],
      by simp [fresh, World.traced, World.map, Token.isCancelled, Token.fresh], rfl, rfl,
      fun before c after heq => absurd heq (by simp [World.traced, World.map])⟩, fun h => nomatch h⟩
  exact performs_of_attends (obeyAll_attends henv rfl hstart orders)

/-- Whoever waits to cancel the observer does so at a suspension. -/
theorem stoppingSurroundings_stopsAtSuspensions (now : Instant) :
    (Script.stoppingSurroundings now).StopsAtSuspensions := by
  have hturns : ∀ n, (everyTurn n).any Happening.isStop = false := by
    intro n
    simp [everyTurn, Happening.isStop]
  have hnever : ∀ m watchers s,
      ((Script.surroundings now).meanwhile m watchers s).1.happenings.any Happening.isStop =
        false := by
    intro m watchers s
    simp only [Script.surroundings]
    split
    · split
      · simp [Happening.isStop]
      · rfl
    · split
      · exact hturns watchers
      · rfl
  intro m watchers s hstop
  simp only [Script.stoppingSurroundings] at hstop ⊢
  split <;> rename_i hsuspended
  · exact .inr rfl
  · rw [if_neg hsuspended, hnever] at hstop
    cases hstop

def unpacked : Script where
  exec := Table.ofList [("tar", .error (.io "tar: not found"))]

def waiting : World (Script × Bool) :=
  { World.start (unpacked, false) .fresh .empty with
    observer := ⟨.collector (.fresh "e2e-probe" "probe" (some [])), .fresh⟩ }

def endTwice : List Order :=
  [.event (.ended "e2e-probe" "probe" 0), .event (.ended "e2e-probe" "probe" 0)]

theorem fresh_performs_endTwice :
    (Script.stoppingSurroundings Rehearsal.now).StopsAtSuspensions ∧
    ∃ sights, sights = (endTwice.foldl (Observer.obey (Script.stoppingSurroundings Rehearsal.now))
        (waiting.traced [])).cluster.2 ∧
      (fresh "e2e-probe" "probe" (some [])).Performs false true sights ∧
      (answeredIn sights).filterMap Call.podLine? =
        ["exec e2e-probe artifacts tar czf - -C /tmp/artifacts .",
          "exec e2e-probe artifacts touch /tmp/done"] := by
  have henv := stoppingSurroundings_stopsAtSuspensions Rehearsal.now
  have hends : endTwice.any (Order.ends "probe") = true := by decide
  have hperforms := fresh_performs (w := waiting) henv rfl rfl endTwice
  rw [hends] at hperforms
  exact ⟨henv, _, rfl, hperforms, by decide +kernel⟩

end Collector

end StagedTests
