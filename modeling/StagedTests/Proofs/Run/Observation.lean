import StagedTests.Proofs.Container.Tracker
import StagedTests.Proofs.Run.Journal
import StagedTests.Proofs.Run.Log
import StagedTests.Proofs.TestCase.Record
import StagedTests.Run.Rehearsal

/-!
# The test cases of a pod

While a pod is looked at, its record follows the events that are delivered, which are ordered. The
watcher of the pod's scope cancels the record if the token is cancelled before the scope begins to
close. So a container that has started lacks a case only if the pod was given up before the container
ended and nobody had cancelled anything by then.
-/

namespace StagedTests

variable {σ : Type}

def Entry.isDelivery : Entry → Bool
  | .delivered _ => true
  | _ => false

theorem Entry.isDelivery_of_isPassing (e : Entry) (h : e.isPassing = true) :
    e.isDelivery = false := by
  cases e <;> first | rfl | cases h

def World.deliveries (w : World σ) : List Entry := w.shown Entry.isDelivery

/-! ## The record of a run -/

section

variable {env : Surroundings σ}

theorem World.record_answer {α : Type} (w : World σ) (c : Call) (op : σ → Reply α × σ) :
    (w.answer c op).2.observer.record = w.observer.record :=
  answer_frame (·.observer.record) (fun _ _ => rfl) (fun _ _ _ => rfl) w c op

variable (env) in
theorem Surroundings.record_react (w : World σ) (r : Reaction) :
    (env.react w r).1.observer.record = w.observer.record ∨
      ∃ now, (env.react w r).1.observer.record = w.observer.record.cancel now := by
  cases r with
  | cancelObserver => exact .inr ⟨_, rfl⟩
  | deletePods selector =>
    exact .inl (World.react_deletePods_frame (·.observer.record) (fun _ _ => rfl)
      (fun _ _ _ => rfl) env w selector)

variable (env) in
theorem Surroundings.record_happen (w : World σ) (h : Happening) :
    (env.happen w h).observer.record = w.observer.record ∨
      ∃ now, (env.happen w h).observer.record = w.observer.record.cancel now := by
  cases h with
  | cancel reason =>
    refine .inl ?_
    simp only [Surroundings.happen, World.cancel]
    split <;> rfl
  | turn i =>
    exact env.turn_keeps (J := fun v => v.observer.record = w.observer.record ∨
      ∃ now, v.observer.record = w.observer.record.cancel now) i (.inl rfl) (env.record_react w)
      fun _ _ hv => hv
  | cancelObserver => exact .inr ⟨_, rfl⟩

end

/-- The events have been delivered behind those that had been before, and the record is theirs. -/
def World.Follows (before : List Entry) (events : List ContainerEvent) (w : World σ) : Prop :=
  w.deliveries = before ++ events.map .delivered ∧ Record.Reflects events w.observer.record

section

variable (env : Surroundings σ) (before : List Entry) (events : List ContainerEvent)

theorem keptByCreation_follows :
    KeptByCreation env Call.Any (World.Follows before events) := by
  have h := keptByCreation_shown env Entry.isDelivery_of_isPassing
    (before ++ events.map Entry.delivered)
  have answer : ∀ {α : Type} (c : Call) (op : σ → Reply α × σ) (w : World σ),
      (w.answer c op).2.deliveries = before ++ events.map .delivered →
      w.Follows before events → (w.answer c op).2.Follows before events := by
    intro α c op w hd hw
    exact ⟨hd, by rw [w.record_answer]; exact hw.2⟩
  exact
    { meanwhile := fun m w hw => ⟨h.meanwhile m w hw.1, hw.2⟩
      happen := fun x w hw => by
        refine ⟨h.happen x w hw.1, ?_⟩
        rcases env.record_happen w x with heq | ⟨now, heq⟩
        · rw [heq]; exact hw.2
        · rw [heq]; exact hw.2.cancel now
      commands := fun _ _ _ => trivial
      called := fun c w hc hw => ⟨h.called c w hc hw.1, hw.2⟩
      warned := fun m w hw => ⟨h.warned m w hw.1, hw.2⟩
      getPod := fun name w hc hw => answer _ _ w (h.getPod name w hc hw.1) hw
      deletePod := fun name w hc hw => answer _ _ w (h.deletePod name w hc hw.1) hw
      exec := fun pod c words w hw => answer _ _ w (h.exec pod c words w hw.1) hw
      disk := fun d w hw => ⟨h.disk d w hw.1, hw.2⟩
      racing := fun b w hw => ⟨h.racing b w hw.1, hw.2⟩
      collecting := fun b w hw => ⟨h.collecting b w hw.1, hw.2⟩
      nested := fun n w hw => ⟨h.nested n w hw.1, hw.2⟩
      createPod := fun p w hc hw => answer _ _ w (h.createPod p w hc hw.1) hw }

theorem keptByScopes_follows : KeptByScopes env (World.Follows before events) := by
  have h := keptByScopes_shown env Entry.isDelivery_of_isPassing
    (before ++ events.map Entry.delivered)
  exact
    { toKeptAtPauses := (keptByCreation_follows env before events).toKeptAtPauses
      opened := fun r w hw => ⟨h.opened r w hw.1, hw.2⟩
      closing := fun r w hw => ⟨h.closing r w hw.1, hw.2⟩
      closed := fun r w hw => ⟨h.closed r w hw.1, hw.2⟩
      dropped := fun w hw => ⟨h.dropped w hw.1, hw.2⟩ }

end

/-! ## Deliveries -/

open StagedTests.Task (Keeps Leads)

section

variable (env : Surroundings σ) {before : List Entry}

theorem Observer.deliver_follows {events : List ContainerEvent} (e : ContainerEvent) :
    Leads (World.Follows before events) (Observer.deliver env e) fun _ =>
      World.Follows before (events ++ [e]) := by
  have hnotify := (keptByCreation_follows env before events).notify e
  refine .bind (.ofKeeps hnotify) fun _ => .change fun w hw => ⟨?_, hw.2.observe _ e⟩
  have hshown : (w.note (.delivered e)).deliveries = w.deliveries ++ [.delivered e] :=
    w.shown_note Entry.isDelivery _
  rw [List.map_append, ← List.append_assoc, ← hw.1]
  exact hshown

/-- An event that was not delivered to the end has not reached the record. -/
theorem Observer.deliver_unreturned {events : List ContainerEvent} (e : ContainerEvent)
    {w w' : World σ} (hw : w.Follows before events)
    (h : Observer.deliver env e w = (.dropped, w')) : w'.Follows before events := by
  have hnotify := (keptByCreation_follows env before events).notify e w hw
  rcases hn : Observer.notify env e w with ⟨o, w₁⟩
  rw [hn] at hnotify
  cases o with
  | returned a =>
    have hdeliver := Task.bind_of_returned (fun _ => Task.change fun w : World σ =>
      { w with observer := w.observer.observe (env.clock w.cluster) e }.note (.delivered e)) hn
    change Observer.deliver env e w = _ at hdeliver
    rw [h] at hdeliver
    cases hdeliver
  | dropped | abandoned | stalled =>
    have hdeliver : (Observer.deliver env e w).2 = (Observer.notify env e w).2 :=
      (Task.bind_of_not_returned _ (by rw [hn]; rfl)).2
    rw [h, hn] at hdeliver
    cases hdeliver
    exact hnotify

theorem Runner.race_deliver_follows {events : List ContainerEvent} (e : ContainerEvent) :
    Leads (World.Follows before events) (Task.race env (Observer.deliver env e)) fun o =>
      World.Follows before (events ++ if o.isSome then [e] else []) := by
  have hkept := keptByCreation_follows env before events
  intro w o w' hw h
  have hraced := hkept.racing true _ (hkept.pass .checking w hw)
  rcases Task.race_eq_returned h with ⟨rfl, rfl⟩ | ⟨w₂, rfl, hdropped, rfl⟩ |
    ⟨_, w₂, rfl, hreturned, rfl⟩
  · simpa using hkept.pass .checking w hw
  · have hkept₂ : w₂.Follows before events := Observer.deliver_unreturned env e hraced hdropped
    rw [Option.isSome_none, if_neg Bool.false_ne_true, List.append_nil]
    exact hkept₂
  · exact Observer.deliver_follows env e _ _ w₂ hraced hreturned

/-- Some of the events, the first ones, are delivered in any case. -/
theorem Runner.deliverAll_follows (events more : List ContainerEvent) :
    Leads (World.Follows before events) (Runner.deliverAll env more) fun delivered w =>
      ∃ first, first <+: more ∧ (delivered = true → first = more) ∧
        w.Follows before (events ++ first) := by
  induction more generalizing events with
  | nil =>
    refine .done fun w hw => ⟨[], List.prefix_rfl, fun _ => rfl, ?_⟩
    rwa [List.append_nil]
  | cons e rest ih =>
    refine .bind (Runner.race_deliver_follows env e) fun o => ?_
    cases o with
    | none =>
      exact .done fun w hw => ⟨[], List.nil_prefix, (fun h => nomatch h), hw⟩
    | some _ =>
      refine (ih (events ++ [e])).weaken (fun w hw => hw) ?_
      rintro delivered w ⟨first, hpre, hall, hw⟩
      refine ⟨e :: first, List.cons_prefix_cons.mpr ⟨rfl, hpre⟩, fun h => by rw [hall h], ?_⟩
      rwa [List.append_assoc] at hw

def World.FollowsOrdered (before : List Entry) (w : World σ) : Prop :=
  ∃ events, Ordered events ∧ w.Follows before events

variable (r : Runner) (p : StepPod)

theorem Runner.cancelled_follows {events : List ContainerEvent} (h : Ordered events) :
    Leads (World.Follows before events) (r.cancelled p : Task σ _) fun _ =>
      World.FollowsOrdered before :=
  .bind (Q := fun _ => World.Follows before events) (.look fun _ hw => hw) fun _ =>
    .done fun _ hw => ⟨events, h, hw⟩

theorem Runner.watch_follows (n : Nat) (t : Tracker) {events : List ContainerEvent}
    (ht : t.Reported events) :
    Leads (World.Follows before events) (r.watch env p n t) fun _ =>
      World.FollowsOrdered before := by
  induction n generalizing t events with
  | zero => exact .stall
  | succ n ih =>
    have hkept := (keptByCreation_follows env before events).toKeptByCalls
    refine .bind (.ofKeeps (hkept.race (hkept.look p.within_any.get))) fun answer => ?_
    match answer with
    | none => exact r.cancelled_follows p ht.ordered
    | some (.error e) => exact .done fun w hw => ⟨events, ht.ordered, hw⟩
    | some (.ok pod) =>
      have ht' := ht.diff p.name pod
      refine .bind (Runner.deliverAll_follows env events (t.diff p.name pod).2) fun delivered => ?_
      cases delivered with
      | false =>
        rintro w result w' ⟨first, hpre, -, hw⟩ h
        have hordered := ht'.ordered.of_prefix ((List.prefix_append_right_inj events).mpr hpre)
        exact r.cancelled_follows p hordered w result w' hw h
      | true =>
        refine .weaken (P := World.Follows before (events ++ (t.diff p.name pod).2)) ?_ ?_
          fun _ _ hw => hw
        · simp only [if_true]
          split
          · exact .done fun w hw => ⟨_, ht'.ordered, hw⟩
          · exact .done fun w hw => ⟨_, ht'.ordered, hw⟩
          · have hkept := (keptByCreation_follows env before
              (events ++ (t.diff p.name pod).2)).toKeptByCalls
            refine .bind (.ofKeeps (hkept.race (hkept.sleep r n))) fun slept => ?_
            cases slept with
            | none => exact r.cancelled_follows p ht'.ordered
            | some _ => exact ih _ ht'
        · rintro w ⟨first, -, hall, hw⟩
          rwa [hall rfl] at hw

end

/-! ## The watcher of a pod's scope -/

/-- The innermost watcher stands at place `n`. It waits to cancel the record, in an open scope or for
its last turn behind the cancellation, or the record was cancelled. -/
def World.Observed (n : Nat) (w : World σ) : Prop :=
  ∃ watch, w.watchers[n]? = some ⟨.cancelObserver, watch⟩ ∧ w.watchers.length = n + 1 ∧
    (watch = .waiting ∧ (w.closing = true → w.token.isCancelled = true) ∨
      w.observer.record.cancelled = true)

section

variable (env : Surroundings σ)

theorem World.Observed.of_eq {n : Nat} {w w' : World σ} (h : w.Observed n)
    (hwatchers : w'.watchers = w.watchers) (hclosing : w'.closing = w.closing)
    (htoken : w.token.isCancelled = true → w'.token.isCancelled = true)
    (hrecord : w.observer.record.cancelled = true → w'.observer.record.cancelled = true) :
    w'.Observed n := by
  obtain ⟨watch, hn, hlength, hwatch⟩ := h
  refine ⟨watch, by rw [hwatchers, hn], by rw [hwatchers, hlength], ?_⟩
  rw [hclosing]
  exact hwatch.imp (fun hidle => ⟨hidle.1, fun h => htoken (hidle.2 h)⟩) hrecord

theorem World.Observed.turn {n : Nat} {w : World σ} (h : w.Observed n) (i : Nat) :
    (env.turn w i).Observed n := by
  obtain ⟨watch, hn, hlength, hwatch⟩ := h
  rcases env.turn_cases w i with ⟨heq, -⟩ | ⟨reaction, hi, htoken, heq⟩ |
    ⟨reaction, hi, hgoing, hclosed, heq⟩
  · rw [heq]
    exact ⟨watch, hn, hlength, hwatch⟩
  · have hcancelled : w.observer.record.cancelled = true →
        (env.react w reaction).1.observer.record.cancelled = true := by
      intro hc
      rcases env.record_react w reaction with heq | ⟨now, heq⟩
      · rw [heq, hc]
      · rw [heq, Record.cancel_eq]
    rw [heq]
    by_cases hin : i = n
    · subst hin
      rw [hn] at hi
      cases hi
      exact ⟨.reacted, List.getElem?_set_self (by omega), by rw [List.length_set, hlength],
        .inr (by rw [Surroundings.react, Observer.cancel, Record.cancel_eq])⟩
    · refine ⟨watch, by rw [List.getElem?_set_ne hin, hn], by rw [List.length_set, hlength], ?_⟩
      exact hwatch.imp (fun hidle => ⟨hidle.1, fun _ => by rw [env.react_token, htoken]⟩) hcancelled
  -- The innermost watcher is not let go as long as the token is cancelled by its last turn.
  · obtain ⟨hclosing, hlast⟩ := Bool.and_eq_true_iff.mp hclosed
    obtain rfl : i = n := by
      rw [hlength, beq_iff_eq] at hlast
      exact Nat.succ.inj hlast
    rcases hwatch with ⟨-, hc⟩ | hcancelled
    · rw [hc hclosing] at hgoing
      cases hgoing
    · rw [hn] at hi
      cases hi
      rw [heq]
      exact ⟨.released, List.getElem?_set_self (by omega), by rw [List.length_set, hlength],
        .inr hcancelled⟩

theorem keptByEvents_observed (n : Nat) :
    KeptByEvents env Call.Any (World.Observed n) := by
  have answer : ∀ {α : Type} (c : Call) (op : σ → Reply α × σ) (w : World σ), w.Observed n →
      (w.answer c op).2.Observed n := fun c op w hw =>
    hw.of_eq (w.watchers_answer c op)
      (World.answer_frame (·.closing) (fun _ _ => rfl) (fun _ _ _ => rfl) w c op)
      (fun hc => by
        rw [World.answer_frame (·.token) (fun _ _ => rfl) (fun _ _ _ => rfl) w c op, hc])
      fun hc => by rw [w.record_answer, hc]
  exact
    { meanwhile := fun _ _ hw => hw
      happen := fun x w hw => by
        cases x with
        | cancel reason =>
          simp only [Surroundings.happen, World.cancel]
          split
          · exact hw
          · exact hw.of_eq rfl rfl (fun _ => Token.isCancelled_cancel _ _) id
        | turn i => exact hw.turn env i
        | cancelObserver =>
          refine hw.of_eq rfl rfl id fun _ => ?_
          simp only [Surroundings.happen, Observer.cancel, Record.cancel_eq]
      commands := fun _ _ _ => trivial
      called := fun _ _ _ hw => hw
      warned := fun _ _ hw => hw
      getPod := fun _ w _ hw => answer _ _ w hw
      deletePod := fun _ w _ hw => answer _ _ w hw
      exec := fun _ _ _ w hw => answer _ _ w hw
      disk := fun _ _ hw => hw
      racing := fun _ _ hw => hw
      collecting := fun _ _ hw => hw
      nested := fun _ _ hw => hw
      delivered := fun e w hw => hw.of_eq rfl rfl id fun hc =>
        (Record.cancelled_observe w.observer.record _ e).trans hc }

/-- If the token is cancelled before a pod's scope begins to close, the record is by its end. -/
theorem closeScope_observed (n : Nat) :
    Leads (fun w => w.Observed n ∧ w.token.isCancelled = true)
      (Task.closeScope env .cancelObserver) fun _ w => w.observer.record.cancelled = true := by
  refine (keptByEvents_observed env n).closeScope_leads _ (fun w ⟨hw, hc⟩ => ?_)
    (fun w hw hlast => ?_) fun _ hw => hw
  · obtain ⟨watch, hn, hlength, hwatch⟩ := hw
    exact ⟨watch, hn, hlength, hwatch.imp_left fun hidle => ⟨hidle.1, fun _ => hc⟩⟩
  · obtain ⟨watch, hn, hlength, hwatch⟩ := hw
    rw [List.getLast?_eq_getElem?, hlength] at hlast
    exact hwatch.resolve_left fun hidle => hlast _ hn hidle.1

end

/-! ## The run of a pod -/

namespace Runner

variable (env : Surroundings σ) (r : Runner) (p : StepPod)

/-- What a run leaves to be seen: the record is that of the events delivered, which are ordered, and
if the token was cancelled before the scope of the pod began to close, then the record was or nothing
has been delivered. -/
def Leaves (v w : World σ) : Prop :=
  ∃ events log, Ordered events ∧ w.Follows v.deliveries events ∧ w.journal = v.journal ++ log ∧
    ((tokenAfter v.token (untilClosing .cancelObserver log)).isCancelled = true →
      events = [] ∨ w.observer.record.cancelled = true)

theorem leaves_of_nothing {v w : World σ} (h : w.Follows v.deliveries []) (hbehind : v.Behind w) :
    Leaves v w := by
  obtain ⟨log, hjournal, -, -⟩ := hbehind
  exact ⟨[], log, .nil, h, hjournal, fun _ => .inl rfl⟩

theorem Leaves.warn {v w : World σ} (h : Leaves v w) (message : String) :
    Leaves v (w.warn message) := by
  obtain ⟨events, log, hordered, hw, hjournal, hc⟩ := h
  refine ⟨events, log ++ [.warned message], hordered, ⟨?_, hw.2⟩, ?_, ?_⟩
  · exact (w.shown_note_of_isPassing Entry.isDelivery_of_isPassing rfl).trans hw.1
  · rw [World.warn, World.note, hjournal, List.append_assoc]
  · rwa [tokenAfter_untilClosing_concat _ _ _ fun _ => rfl]

theorem closeScope_leaves (v : World σ) :
    Leads (fun w => World.FollowsOrdered v.deliveries w ∧ (∃ n, w.Observed n) ∧ v.Behind w)
      (Task.closeScope env .cancelObserver) fun _ => Leaves v := by
  rintro w a w' ⟨⟨events, hordered, hw⟩, ⟨n, hn⟩, opening, hjournal, htoken, -⟩ h
  obtain ⟨_, hjournal', -, ending, rfl⟩ := Task.closeScope_along env .cancelObserver w w a w' rfl h
  refine ⟨events, opening ++ .closing .cancelObserver :: ending, hordered,
    ((keptByScopes_follows env v.deliveries events).closeScope _).returned hw h, ?_, fun hc => ?_⟩
  · rw [hjournal', hjournal, List.append_assoc]
  · have hcancelled : w.token.isCancelled = true := by
      rw [htoken]
      exact isCancelled_of_untilClosing hc
    exact .inr (closeScope_observed env n w a w' ⟨hn, hcancelled⟩ h)

theorem run_leaves (hdry : r.dry = false) (v : World σ) :
    Leads (fun w => w.Follows v.deliveries [] ∧ v.Behind w) (r.run env p) fun _ => Leaves v := by
  have hkept := keptByCreation_follows env v.deliveries
  have hscopes := keptByScopes_follows env v.deliveries []
  have hbehind := keptByRuns_along_any env v (S := fun _ => True) fun _ _ _ _ => trivial
  unfold run
  rw [if_neg (by simp [hdry])]
  refine .bind (.and (.ofKeeps (hkept []).isCancelled) (.ofKeeps hbehind.isCancelled))
    fun cancelled => ?_
  cases cancelled with
  | true =>
    exact .bind (Q := fun _ w => w.Follows v.deliveries [] ∧ v.Behind w) (.look fun _ hw => hw)
      fun _ => .done fun _ hw => leaves_of_nothing hw.1 hw.2
  | false =>
    refine .bind (.and (.ofKeeps ((hkept []).createOrRestart r p.within_any))
      (.ofKeeps (hbehind.createOrRestart r p.within_any))) fun created => ?_
    cases created with
    | error e => exact .done fun _ hw => leaves_of_nothing hw.1 hw.2
    | ok _ =>
      refine .bind (Q := fun _ w => w.Follows v.deliveries [] ∧ (∃ n, w.Observed n) ∧ v.Behind w)
        (.change fun w hw => ⟨hscopes.opened _ w hw.1, ⟨w.watchers.length, .waiting, ?_⟩,
          hbehind.opened _ w hw.2⟩) fun _ =>
        .bind (Q := fun _ w => World.FollowsOrdered v.deliveries w ∧ (∃ n, w.Observed n) ∧
          v.Behind w) (.and (r.watch_follows env p _ _ .fresh) (.and
            (.ofKeeps (.of_forall fun n =>
              (keptByEvents_observed env n).watch r p.within_any.get _ _))
            (.ofKeeps (hbehind.watch r p.within_any.get _ _)))) fun result =>
        .bind (closeScope_leaves env v) fun _ => .bind (.ofKeeps ?_) fun _ => .done fun _ hw => hw
      · simp [World.note]
      · cases result with
        | ok _ => exact .done ()
        | error e => exact .change fun w hw => hw.warn _

end Runner

namespace Rehearsal

/-- A pod that is found running and is gone at the next look. -/
def vanishing : Script where
  pods := Table.ofList [("e2e-probe",
    { polls :=
        [.status (some
          { phase := some "Running"
            containers := some [PodStore.runningStatus now "probe"] }), .gone] })]

def probe : StepPod := ⟨"probe", { metadata := { name := some "e2e-probe" } }, false⟩

def probeRunner : Runner := ⟨"e2e", none, false, 1⟩

def startDelivered (l : List Entry) (c : String) : Bool :=
  l.any fun
    | .delivered e => !e.isTerminal && e.container == c
    | _ => false

theorem startedIn_of_startDelivered {events : List ContainerEvent} {c : String}
    (h : startDelivered (events.map .delivered) c = true) : StartedIn events c := by
  simp only [startDelivered, List.any_map, List.any_eq_true, Function.comp_apply,
    Bool.and_eq_true, Bool.not_eq_true', beq_iff_eq] at h
  exact h

end Rehearsal

namespace Runner

variable (env : Surroundings σ) (r : Runner) (p : StepPod)

open Rehearsal (vanishing probe probeRunner startDelivered startedIn_of_startDelivered)

def beforeVanishing : World Script := .start vanishing .fresh .empty

/-- The token is cancelled at the look that does not find the pod any more. -/
def beforeStopping : World Script :=
  .start { vanishing with orders := [⟨"get e2e-probe", 2, "stop"⟩] } .fresh .empty

theorem run_vanishing_returned :
    ∃ result w', probeRunner.run (Script.surroundings Rehearsal.now) probe beforeVanishing =
      (.returned result, w') :=
  (Task.isReturned_iff _ _).mp (by decide +kernel)

theorem run_stopping_returned :
    ∃ result w', probeRunner.run (Script.surroundings Rehearsal.now) probe beforeStopping =
      (.returned result, w') :=
  (Task.isReturned_iff _ _).mp (by decide +kernel)

/-- A run with a fresh record leaves one case for each container that started exactly if the record
was cancelled or every container that started has also ended. So it does where the token is
cancelled before the scope of the pod begins to close. A container that was running when its pod was
given up may have no case, also where the token is cancelled once the watcher has been let go. -/
theorem run_oneCaseEach_iff (hdry : r.dry = false) {w w' : World σ}
    {result : Except ExecutionError Unit} (hfresh : w.observer.record = .fresh)
    (h : r.run env p w = (.returned result, w')) :
    ∃ events log, w'.deliveries = w.deliveries ++ events.map .delivered ∧
      w'.journal = w.journal ++ log ∧
      (Record.OneCaseEach events w'.observer.record ↔
        w'.observer.record.cancelled = true ∨ ∀ c, StartedIn events c → EndedIn events c) ∧
      ((tokenAfter w.token (untilClosing .cancelObserver log)).isCancelled = true →
        Record.OneCaseEach events w'.observer.record) := by
  have hstart : w.Follows w.deliveries [] :=
    ⟨(List.append_nil _).symm, by rw [hfresh]; exact .fresh⟩
  obtain ⟨events, log, hordered, ⟨hdeliveries, hrecord⟩, hjournal, hcancelled⟩ :=
    r.run_leaves env p hdry w w result w' ⟨hstart, .self w⟩ h
  have hiff := hrecord.oneCaseEach_iff hordered
  refine ⟨events, log, hdeliveries, hjournal, hiff, fun hc => hiff.mpr ?_⟩
  rcases hcancelled hc with rfl | hc
  · exact .inr fun c ⟨_, he, _⟩ => nomatch he
  · exact .inl hc

theorem run_oneCaseEach_iff_vanishing :
    (∃ result w', probeRunner.run (Script.surroundings Rehearsal.now) probe beforeVanishing =
        (.returned result, w') ∧
      ∃ events, w'.deliveries = beforeVanishing.deliveries ++ events.map .delivered ∧
        (Record.OneCaseEach events w'.observer.record ↔
          w'.observer.record.cancelled = true ∨ ∀ c, StartedIn events c → EndedIn events c)) ∧
    ∃ result w', probeRunner.run (Script.surroundings Rehearsal.now) probe beforeStopping =
        (.returned result, w') ∧
      ∃ events, w'.deliveries = beforeStopping.deliveries ++ events.map .delivered ∧
        StartedIn events "probe" ∧ Record.OneCaseEach events w'.observer.record := by
  constructor
  · obtain ⟨result, w', h⟩ := run_vanishing_returned
    obtain ⟨events, -, hdeliveries, -, hiff, -⟩ :=
      run_oneCaseEach_iff (Script.surroundings Rehearsal.now) probeRunner probe rfl rfl h
    exact ⟨result, w', h, events, hdeliveries, hiff⟩
  · obtain ⟨result, w', h⟩ := run_stopping_returned
    obtain ⟨events, log, hdeliveries, hjournal, -, hone⟩ :=
      run_oneCaseEach_iff (Script.surroundings Rehearsal.now) probeRunner probe rfl rfl h
    have hw' : w' = (probeRunner.run (Script.surroundings Rehearsal.now) probe
        beforeStopping).2 := by rw [h]
    have hlog : log = w'.journal := hjournal.symm
    have hstarted : startDelivered w'.deliveries "probe" = true := by
      rw [hw']
      decide +kernel
    have hcancelled : (tokenAfter beforeStopping.token
        (untilClosing .cancelObserver log)).isCancelled = true := by
      rw [hlog, hw']
      decide +kernel
    rw [hdeliveries] at hstarted
    exact ⟨result, w', h, events, hdeliveries, startedIn_of_startDelivered hstarted,
      hone hcancelled⟩

/-- It is not so that every container which started has a case. -/
theorem not_forall_run_oneCaseEach :
    ¬ ∀ (w w' : World Script) (result : Except ExecutionError Unit) (events : List ContainerEvent),
      w.observer.record = .fresh →
      probeRunner.run (Script.surroundings Rehearsal.now) probe w = (.returned result, w') →
      w'.deliveries = w.deliveries ++ events.map .delivered →
      Record.OneCaseEach events w'.observer.record := by
  intro hall
  obtain ⟨result, w', h⟩ := run_vanishing_returned
  obtain ⟨events, -, -, ⟨hdeliveries, -⟩, -⟩ :=
    probeRunner.run_leaves (Script.surroundings Rehearsal.now) probe rfl beforeVanishing
      beforeVanishing result w' ⟨⟨rfl, .fresh⟩, .self _⟩ h
  have hw' : w' = (probeRunner.run (Script.surroundings Rehearsal.now) probe
      beforeVanishing).2 := by rw [h]
  have hcases : w'.observer.record.cases = [] := by
    rw [hw']
    decide +kernel
  have hstarted : startDelivered w'.deliveries "probe" = true := by
    rw [hw']
    decide +kernel
  rw [hdeliveries] at hstarted
  have hone := (hall _ _ _ _ rfl h hdeliveries).started "probe"
    (startedIn_of_startDelivered hstarted)
  rw [hcases] at hone
  cases hone

end Runner

end StagedTests
