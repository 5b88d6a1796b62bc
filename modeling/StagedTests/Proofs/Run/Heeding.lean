import StagedTests.Proofs.Run.Interruption
import StagedTests.Proofs.Run.Release
import StagedTests.Proofs.Run.Transcript

/-!
# What is heard on the way

A run with a transcript is followed by what it has heard of single pods, the calls whose answers are
still to come, and the events that were delivered. While nobody cancels the token, each task adds to
these in its own way, and a task that does not return waits for an answer that does not come.
-/

namespace StagedTests

variable {σ α : Type}

open StagedTests.Task (Keeps Leads Meets Breaks)

/-- The calls on single pods in a part of the journal, commands apart. -/
def podCallsIn (log : List Entry) : List Call :=
  log.filterMap fun
    | .called (.deletePod name) => some (.deletePod name)
    | .called (.getPod name) => some (.getPod name)
    | .called (.createPod pod) => some (.createPod pod)
    | _ => none

def deliveredIn (log : List Entry) : List ContainerEvent :=
  log.filterMap fun
    | .delivered e => some e
    | _ => none

theorem podCallsIn_append (l m : List Entry) : podCallsIn (l ++ m) = podCallsIn l ++ podCallsIn m :=
  List.filterMap_append

theorem deliveredIn_append (l m : List Entry) :
    deliveredIn (l ++ m) = deliveredIn l ++ deliveredIn m :=
  List.filterMap_append

/-- Since `w₀` these calls were made, of which the last ones have not been answered, this was heard
and these events were delivered. Of these watchers some may have been let go; a collection may be
going on, or not. -/
structure Heeds (w₀ : World (σ × List Sight)) (watchers : List (Watcher Reaction)) (loose : Bool)
    (heard : List Heard) (pending : List Call) (events : List ContainerEvent)
    (w : World (σ × List Sight)) : Prop where
  watching : Eased watchers w.watchers
  idle : loose = false → w.collecting = false
  heard_eq : repliesIn w.cluster.2 = heard
  log : ∃ log, w.journal = w₀.journal ++ log ∧
    podCallsIn log = heard.map Heard.call ++ pending ∧ deliveredIn log = events

namespace Heeds

variable {w₀ w w' : World (σ × List Sight)} {watchers : List (Watcher Reaction)} {loose : Bool}
  {heard : List Heard} {pending : List Call} {events : List ContainerEvent}

theorem start (w : World (σ × List Sight)) (hidle : w.collecting = false)
    (hnothing : w.cluster.2 = []) : Heeds w w.watchers false [] [] [] w where
  watching := .refl _
  idle := fun _ => hidle
  heard_eq := by rw [hnothing]; rfl
  log := ⟨[], (List.append_nil _).symm, rfl, rfl⟩

theorem of_eq (h : Heeds w₀ watchers loose heard pending events w)
    (hwatchers : w'.watchers = w.watchers)
    (hcollecting : loose = false → w.collecting = false → w'.collecting = false)
    (hheard : repliesIn w'.cluster.2 = repliesIn w.cluster.2) (hjournal : w'.journal = w.journal) :
    Heeds w₀ watchers loose heard pending events w' where
  watching := by rw [hwatchers]; exact h.watching
  idle := fun hl => hcollecting hl (h.idle hl)
  heard_eq := hheard.trans h.heard_eq
  log := by rw [hjournal]; exact h.log

theorem note (h : Heeds w₀ watchers loose heard pending events w) {e : Entry}
    {more : List Call} {late : List ContainerEvent} (hcalls : podCallsIn [e] = more)
    (hevents : deliveredIn [e] = late) :
    Heeds w₀ watchers loose heard (pending ++ more) (events ++ late) (w.note e) where
  watching := h.watching
  idle := h.idle
  heard_eq := h.heard_eq
  log := by
    obtain ⟨log, hjournal, hc, he⟩ := h.log
    refine ⟨log ++ [e], ?_, ?_, ?_⟩
    · rw [World.note, hjournal, List.append_assoc]
    · rw [podCallsIn_append, hc, hcalls, List.append_assoc]
    · rw [deliveredIn_append, he, hevents]

theorem quiet (h : Heeds w₀ watchers loose heard pending events w) {e : Entry}
    (hcalls : podCallsIn [e] = []) (hevents : deliveredIn [e] = []) :
    Heeds w₀ watchers loose heard pending events (w.note e) := by
  have hnote := h.note hcalls hevents
  rwa [List.append_nil, List.append_nil] at hnote

theorem loosen (h : Heeds w₀ watchers loose heard pending events w) :
    Heeds w₀ watchers true heard pending events w :=
  { h with idle := fun hl => nomatch hl }

theorem seen (h : Heeds w₀ watchers loose heard pending events w) {s : σ} {sights : List Sight}
    (hsights : repliesIn sights = []) :
    Heeds w₀ watchers loose heard pending events
      { w with cluster := (s, w.cluster.2 ++ sights) } :=
  h.of_eq rfl (fun _ hc => hc) (by rw [repliesIn_append, hsights, List.append_nil]) rfl

theorem heed (h : Heeds w₀ watchers loose heard [x.call] events w) {s : σ} :
    Heeds w₀ watchers loose (heard ++ [x]) [] events
      { w with cluster := (s, w.cluster.2 ++ [.heard x]) } where
  watching := h.watching
  idle := h.idle
  heard_eq := by
    change repliesIn (w.cluster.2 ++ [.heard x]) = _
    rw [repliesIn_append, h.heard_eq]
    rfl
  log := by
    obtain ⟨log, hjournal, hc, he⟩ := h.log
    exact ⟨log, hjournal, by simpa using hc, he⟩

end Heeds

/-! ## Tasks that nobody cancels -/

abbrev Heeding (w₀ : World (σ × List Sight)) (watchers : List (Watcher Reaction)) (loose : Bool)
    (heard : List Heard) (pending : List Call) (events : List ContainerEvent) :
    World (σ × List Sight) → Prop :=
  OrCancelled (Heeds w₀ watchers loose heard pending events)

section

variable (env : Surroundings σ) (w₀ : World (σ × List Sight)) (watchers : List (Watcher Reaction))
  (loose : Bool) (heard : List Heard) (pending : List Call) (events : List ContainerEvent)

theorem keptAtPauses_heeding :
    KeptAtPauses env.traced (Heeding w₀ watchers loose heard pending events) :=
  .orCancelled (fun _ _ hw => hw.seen (repliesIn_sights _ _))
    (fun i w hw hgoing => by
      obtain ⟨_, hl, heq⟩ := env.traced.turn_of_uncancelled hgoing hw.watching i
      rw [heq]
      exact { hw with watching := hl })
    fun _ _ hw => hw.of_eq rfl (fun _ hc => hc) rfl rfl

def Call.IsCommand : Call → Prop
  | .exec _ _ _ => True
  | _ => False

theorem keptByCalls_heeding :
    KeptByCalls env.traced Call.IsCommand (Heeding w₀ watchers true heard pending events) where
  toKeptAtPauses := keptAtPauses_heeding env w₀ watchers true heard pending events
  commands := fun _ _ _ => trivial
  called := fun c w hc hw => by
    cases c with
    | exec pod container words => exact hw.imp rfl fun h => h.quiet rfl rfl
    | _ => exact hc.elim
  warned := fun _ _ hw => hw.imp rfl fun h => h.quiet rfl rfl
  getPod := fun _ _ hc _ => hc.elim
  deletePod := fun _ _ hc _ => hc.elim
  exec := fun pod container words w hw => by
    rcases hop : env.pods.exec pod container words w.cluster.1 with ⟨reply, s⟩
    have hwrite : env.traced.pods.exec pod container words w.cluster = _ :=
      writing_eq (.ran pod container words) hop
    cases reply with
    | hangs =>
      rw [World.answer_of_hangs _ hwrite]
      exact hw.imp rfl fun h => h.seen rfl
    | answered a =>
      rw [World.answer_of_answered _ hwrite]
      exact hw.imp rfl fun h => (h.seen rfl).quiet rfl rfl
  disk := fun _ _ hw => hw.imp rfl fun h => h.of_eq rfl (fun _ hc => hc) rfl rfl
  racing := fun _ _ hw => hw.imp rfl fun h => h.of_eq rfl (fun _ hc => hc) rfl rfl
  collecting := fun _ _ hw => hw.imp rfl fun h => h.of_eq rfl (fun hl => nomatch hl) rfl rfl
  nested := fun _ _ hw => hw.imp rfl fun h => h.of_eq rfl (fun _ hc => hc) rfl rfl

theorem Task.pause_heeding (m : Moment) :
    Meets (Heeding w₀ watchers false heard pending events) (Task.pause env.traced m)
      (fun _ => Heeding w₀ watchers false heard pending events)
      (OrCancelled fun _ => False) := by
  have hkept := (keptAtPauses_heeding env w₀ watchers false heard pending events).pause m
  have hbreaks := Task.pause_breaks (S := fun _ => False) env.traced m
  intro w hw
  refine ⟨fun _ _ heq => hkept.returned hw heq, fun hnot => ?_⟩
  have hw' := hkept w hw
  have hbroken := hbreaks w
  rcases heq : Task.pause env.traced m w with ⟨o, w'⟩
  rw [heq] at hw' hbroken hnot
  cases o with
  | returned _ => cases hnot
  | dropped => exact .inl hbroken
  | stalled => exact hbroken.elim
  | abandoned =>
    -- only within a collection, and none goes on here
    refine hw'.imp rfl fun h => ?_
    have hidle := h.idle rfl
    rw [show w'.collecting = true from hbroken] at hidle
    cases hidle

/-- A call on a single pod is made and is replied to, or it is never answered. -/
theorem Task.call_heeding {β : Type} (hears : Reply β → Heard) {c : Call}
    (hc : podCallsIn [.called c] = [c]) (hears_call : ∀ reply, (hears reply).call = c)
    (op : σ → Reply β × σ) :
    Meets (Heeding w₀ watchers false heard [] events)
      (Task.call env.traced c (writing (fun reply => .heard (hears reply)) op))
      (fun a => Heeding w₀ watchers false (heard ++ [hears (.answered a)]) [] events)
      (Heeding w₀ watchers false (heard ++ [hears .hangs]) [] events) := by
  refine .bind (Q := fun _ => Heeding w₀ watchers false heard [c] events)
    (.change fun w hw => hw.imp rfl fun h => ?_) fun _ =>
    .bind (Q := fun _ => Heeding w₀ watchers false heard [c] events)
      ((Task.pause_heeding env w₀ watchers heard [c] events _).weaken (fun _ hw => hw)
        (fun _ _ hw => hw) fun _ hw => hw.imp rfl fun h => h.elim) fun _ =>
      .bind (Q := fun reply => Heeding w₀ watchers false (heard ++ [hears reply]) [] events)
        ?_ fun reply => ?_
  · simpa using h.note hc (show deliveredIn [.called c] = [] from rfl)
  · intro w hw
    rcases hop : op w.cluster.1 with ⟨reply, s⟩
    have hwrite := writing_eq (fun reply => .heard (hears reply)) hop
    rw [← hears_call reply] at hw
    have hheed : Heeding w₀ watchers false (heard ++ [hears reply]) [] events
        { w with cluster := (s, w.cluster.2 ++ [.heard (hears reply)]) } :=
      hw.imp rfl fun h => h.heed
    cases reply with
    | hangs =>
      refine ⟨fun a w' heq => ?_, fun hnot => nomatch hnot⟩
      have hanswer := Task.effect_eq_returned heq
      rw [World.answer_of_hangs c hwrite] at hanswer
      cases hanswer
      exact hheed
    | answered a =>
      refine ⟨fun a w' heq => ?_, fun hnot => nomatch hnot⟩
      have hanswer := Task.effect_eq_returned heq
      rw [World.answer_of_answered c hwrite] at hanswer
      cases hanswer
      exact hheed.imp rfl fun h => h.quiet rfl rfl
  · cases reply with
    | answered a => exact .done fun _ hw => hw
    | hangs =>
      have hkept := (keptAtPauses_heeding env w₀ watchers false (heard ++ [hears .hangs]) []
        events).hang (α := Except ClientError β) env.traced.patience
      exact fun w hw => ⟨fun a w' heq => (Leads.hang (P := fun _ => True) (Q := fun _ _ => False)
        env.traced _ w a w' trivial heq).elim, fun _ => hkept w hw⟩

end

/-- A race comes to nothing only if the token is cancelled. -/
theorem Task.race_meets {env : Surroundings σ} {P R : World σ → Prop} {Q : α → World σ → Prop}
    {t : Task σ α} {A S : World σ → Prop} (hpass : Keeps P (Task.pass env .checking))
    (hP : ∀ w, P w → P { w with racing := true }) (ht : Meets P t Q R) (hbreaks : Breaks A S t)
    (hQ : ∀ a w, Q a w → Q a { w with racing := false })
    (hR : ∀ w, R w → R { w with racing := false }) :
    Meets P (Task.race env t)
      (fun o w => match o with
        | none => w.token.isCancelled = true
        | some a => Q a w) R := by
  intro w hw
  have hpassed := hpass w hw
  obtain ⟨hreturned, hended⟩ := ht _ (hP _ hpassed)
  have hbroken := hbreaks { (Task.pass env .checking w).2 with racing := true }
  rw [Task.race_eq]
  split
  · rename_i hc
    refine ⟨fun o w' heq => ?_, fun hnot => nomatch hnot⟩
    cases heq
    exact hc
  · unfold Task.untilCancelled
    rcases heq : t { (Task.pass env .checking w).2 with racing := true } with ⟨o, v⟩
    rw [heq] at hended hbroken
    cases o with
    | returned a =>
      refine ⟨fun o w' h => ?_, fun hnot => nomatch hnot⟩
      cases h
      exact hQ a _ (hreturned a v heq)
    | dropped =>
      refine ⟨fun o w' h => ?_, fun hnot => nomatch hnot⟩
      cases h
      exact hbroken
    | abandoned => exact ⟨fun _ _ h => (nomatch h), fun _ => hR _ (hended rfl)⟩
    | stalled => exact ⟨fun _ _ h => (nomatch h), fun _ => hended rfl⟩

/-- A task that is raced with the token heeds as it does alone, unless the token is cancelled. -/
theorem Task.race_heeding (env : Surroundings σ) {w₀ : World (σ × List Sight)}
    {watchers : List (Watcher Reaction)} {heard : List Heard} {events later : List ContainerEvent}
    {t : Task (σ × List Sight) α} {hears : α → List Heard} {A S R : World (σ × List Sight) → Prop}
    (ht : Meets (Heeding w₀ watchers false heard [] events) t
      (fun a => Heeding w₀ watchers false (hears a) [] later) R)
    (hbreaks : Breaks A S t) (hR : ∀ w, R w → R { w with racing := false }) :
    Meets (Heeding w₀ watchers false heard [] events) (Task.race env.traced t)
      (fun o w => match o with
        | none => w.token.isCancelled = true
        | some a => Heeding w₀ watchers false (hears a) [] later w) R :=
  Task.race_meets ((keptAtPauses_heeding env w₀ watchers false heard [] events).pass .checking)
    (fun _ hw => hw.imp rfl fun h => h.of_eq rfl (fun _ hc => hc) rfl rfl) ht hbreaks
    (fun _ _ hw => hw.imp rfl fun h => h.of_eq rfl (fun _ hc => hc) rfl rfl) hR

/-! ## Deliveries -/

theorem keptAtPauses_collecting (env : Surroundings σ) (b : Bool) :
    KeptAtPauses env fun w => w.collecting = b where
  meanwhile := fun _ _ hw => hw
  happen := fun x w hw => (env.happen_frame World.collecting (fun _ _ => rfl) (fun _ _ _ => rfl)
    (fun _ _ => rfl) (fun _ _ => rfl) (fun _ _ => rfl) w x).trans hw

theorem Observer.notify_collecting (env : Surroundings σ) (e : ContainerEvent) :
    Leads (fun w => w.collecting = false) (Observer.notify env e) fun _ w =>
      w.collecting = false := by
  refine .bind (Q := fun _ w => w.collecting = false) (.look fun _ hw => hw) fun nested => ?_
  cases nested with
  | silent | tally _ _ => exact .done fun _ hw => hw
  | collector c =>
    dsimp only
    unfold Collector.observe
    split
    · refine .bind (Q := fun _ w => w.collecting = false) (.change fun _ hw => hw) fun _ =>
        .bind (Q := fun _ w => w.collecting = false)
          (.ofKeeps ((keptAtPauses_collecting env false).pass .checking)) fun _ =>
          .bind (Q := fun _ w => w.collecting = false) (.look fun _ hw => hw) fun stopped => ?_
      cases stopped with
      | true => exact .change fun _ hw => hw
      | false =>
        intro w a w' _ heq
        simp only [if_false, Bool.false_eq_true, Collector.untilStopped] at heq
        split at heq <;> cases heq <;> rfl
    · exact .done fun _ hw => hw

section

variable (env : Surroundings σ) (w₀ : World (σ × List Sight)) (watchers : List (Watcher Reaction))
  (heard : List Heard) (events : List ContainerEvent)

theorem Collector.command_breaks (c : Collector) (words : List String) :
    Breaks World.Collecting World.Hanging (c.command env.traced words) := by
  refine Task.call_breaks (keptAtPauses_hanging env) fun w v h => ?_
  have hv := World.cluster_answer w (.exec c.pod artifactsContainer words)
    (env.traced.pods.exec c.pod artifactsContainer words)
  rw [h] at hv
  rcases hop : env.pods.exec c.pod artifactsContainer words w.cluster.1 with ⟨reply, s⟩
  have hwrite : env.traced.pods.exec c.pod artifactsContainer words w.cluster = _ :=
    writing_eq (.ran c.pod artifactsContainer words) hop
  cases reply with
  | answered a =>
    rw [World.answer_of_answered _ hwrite] at h
    cases h
  | hangs =>
    refine ⟨.ran c.pod artifactsContainer words .hangs, ?_, rfl⟩
    rw [hv, hwrite]
    exact List.mem_append_right _ (List.mem_singleton_self _)

theorem Observer.deliver_heeding (e : ContainerEvent) :
    Meets (Heeding w₀ watchers false heard [] events) (Observer.deliver env.traced e)
      (fun _ => Heeding w₀ watchers false heard [] (events ++ [e]))
      (OrCancelled fun w => Heeds w₀ watchers true heard [] events w ∧ w.Hanging) := by
  have hkept := (keptByCalls_heeding env w₀ watchers heard [] events).notify e
  have hbreaks := Observer.notify_breaks (Collector.command_breaks env) e
  have hloose : ∀ w, Heeding w₀ watchers false heard [] events w →
      Heeding w₀ watchers true heard [] events w := fun w hw => hw.imp rfl Heeds.loosen
  refine .bind (Q := fun _ => Heeding w₀ watchers false heard [] events) ?_ fun _ =>
    .change fun w hw => hw.imp rfl fun h => ?_
  · intro w hw
    -- while the observer is told, a collection may go on; behind it none does
    have hw' := hkept w (hloose w hw)
    have hbroken := hbreaks w
    rcases heq : Observer.notify env.traced e w with ⟨o, v⟩
    rw [heq] at hw' hbroken
    cases o with
    | returned a =>
      refine ⟨fun b w' h => ?_, fun hnot => nomatch hnot⟩
      cases h
      rcases hw with hc | hw
      · exact .inl ((keptByRuns_cancelled env.traced).notify e |>.returned hc heq)
      · refine hw'.imp rfl fun h => { h with idle := fun _ => ?_ }
        exact Observer.notify_collecting env.traced e w a v (hw.idle rfl) heq
    | dropped => exact ⟨fun _ _ h => (nomatch h), fun _ => .inl hbroken⟩
    | abandoned => exact hbroken.elim
    | stalled =>
      exact ⟨fun _ _ h => (nomatch h), fun _ => hw'.imp rfl fun h => ⟨h, hbroken⟩⟩
  · have hobserved : Heeds w₀ watchers false heard [] events
        { w with observer := w.observer.observe (env.traced.clock w.cluster) e } :=
      h.of_eq rfl (fun _ hc => hc) rfl rfl
    exact hobserved.note rfl rfl

theorem Runner.deliverAll_heeding (more : List ContainerEvent) :
    Meets (Heeding w₀ watchers false heard [] events) (Runner.deliverAll env.traced more)
      (fun delivered w => if delivered then Heeding w₀ watchers false heard [] (events ++ more) w
        else w.token.isCancelled = true)
      (OrCancelled fun w => ∃ first, first <+: more ∧
        Heeds w₀ watchers true heard [] (events ++ first) w ∧ w.Hanging) := by
  induction more generalizing events with
  | nil =>
    refine .done fun w hw => ?_
    rw [if_pos rfl, List.append_nil]
    exact hw
  | cons e rest ih =>
    -- the events delivered so far stand in the invariant, so `e` moves to their end
    have hrace := Task.race_heeding env (Observer.deliver_heeding env w₀ watchers heard events e)
      (Observer.deliver_breaks (Collector.command_breaks env) e)
      fun w hw => hw.imp rfl fun ⟨h, hh⟩ => ⟨h.of_eq rfl (fun _ hc => hc) rfl rfl, hh⟩
    refine .bind (hrace.weaken (fun _ hw => hw) (fun _ _ hw => hw) fun w hw => hw.imp rfl
      fun ⟨h, hh⟩ => ⟨[], List.nil_prefix, by rwa [List.append_nil], hh⟩) fun o => ?_
    cases o with
    | none => exact .done fun w hw => by rwa [if_neg Bool.false_ne_true]
    | some _ =>
      refine (ih (events ++ [e])).weaken (fun _ hw => hw) (fun delivered w hw => ?_) fun w hw => ?_
      · rwa [List.append_assoc] at hw
      · refine hw.imp rfl fun ⟨first, hfirst, h, hh⟩ => ⟨e :: first, ?_, ?_, hh⟩
        · exact List.cons_prefix_cons.mpr ⟨rfl, hfirst⟩
        · rwa [List.append_assoc] at h

end

end StagedTests
