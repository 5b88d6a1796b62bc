import StagedTests.Proofs.Container.Looks
import StagedTests.Proofs.Run.Heeding
import StagedTests.Proofs.Run.Observation

/-!
# The course of a pod's run

Where nobody cancels the token, the run of a pod follows from what is heard of the cluster: the pod
is created once there is none of its name, and looked at until an answer decides what came of it.
The events delivered on the way are those that the looks show. A run that does not return waits for
an answer, or was given up.
-/

namespace StagedTests

variable {σ : Type}

open StagedTests.Task (Keeps Leads Meets Breaks)

/-! ## What is heard -/

def looksAt (name : String) (answers : List (Except ClientError Pod)) : List Heard :=
  answers.map fun a => .found name (.answered a)

/-- A pod left over was deleted and is looked at. -/
def leaving (name : String) (answers : List (Except ClientError Pod)) : List Heard :=
  .deleted name (.answered (.ok ())) :: looksAt name answers

/-- There is no pod of the name: none could be deleted, or the one that was is gone. -/
inductive Clears (name : String) : List Heard → Prop
  | vacant {e : ClientError} (h : e.isNotFound = true) :
    Clears name [.deleted name (.answered (.error e))]
  | gone (left : List Pod) {e : ClientError} (h : e.isNotFound = true) :
    Clears name (leaving name (left.map .ok ++ [.error e]))

/-- It cannot be told whether there is a pod of the name. -/
inductive Blocks (name : String) : List Heard → ClientError → Prop
  | deletion {e : ClientError} (h : e.isNotFound = false) :
    Blocks name [.deleted name (.answered (.error e))] e
  | look (left : List Pod) {e : ClientError} (h : e.isNotFound = false) :
    Blocks name (leaving name (left.map .ok ++ [.error e])) e

/-- It is still to be told whether there is a pod of the name. -/
inductive Unclear (name : String) : List Heard → Prop
  | deleting : Unclear name [.deleted name .hangs]
  | looking (left : List Pod) : Unclear name (leaving name (left.map .ok))
  | unanswered (left : List Pod) :
    Unclear name (leaving name (left.map .ok) ++ [.found name .hangs])

/-- An answer decides what came of a pod. -/
inductive Decides : Except ClientError Pod → Except ExecutionFault Unit → Prop
  | gone {e : ClientError} (h : e.isNotFound = true) : Decides (.error e) (.error .deleted)
  | lost {e : ClientError} (h : e.isNotFound = false) : Decides (.error e) (.error (.wait e))
  | succeeded {pod : Pod} (h : pod.phaseText = some "Succeeded") : Decides (.ok pod) (.ok ())
  | failed {pod : Pod} (h : pod.phaseText = some "Failed") :
    Decides (.ok pod) (.error (.failed (describeFailure pod)))

def Undecided (pod : Pod) : Prop :=
  pod.phaseText ≠ some "Succeeded" ∧ pod.phaseText ≠ some "Failed"

def eventsAt (name : String) (looks : List Pod) : List ContainerEvent :=
  (Tracker.fresh.diffAll name looks).2

section

variable (r : Runner) (p : StepPod)

def watched (heard : List Heard) (pod : Pod) (answers : List (Except ClientError Pod)) :
    List Heard :=
  heard ++ .created p.pod (.answered (.ok pod)) :: looksAt p.name answers

/-- What is heard in a run, the events that it delivers, and its result. -/
inductive Course : List Heard → List ContainerEvent → Except ExecutionError Unit → Prop
  | blocked {heard : List Heard} {e : ClientError} (h : Blocks p.name heard e) :
    Course heard [] (.error (r.error p (.create e)))
  | refused {heard : List Heard} {e : ClientError} (h : Clears p.name heard) :
    Course (heard ++ [.created p.pod (.answered (.error e))]) [] (.error (r.error p (.create e)))
  | decided {heard : List Heard} {pod : Pod} {looks : List Pod} {last : Except ClientError Pod}
    {fate : Except ExecutionFault Unit} (h : Clears p.name heard)
    (hlooks : ∀ pod ∈ looks, Undecided pod) (hlast : Decides last fate) :
    Course (watched p heard pod (looks.map .ok ++ [last]))
      (eventsAt p.name (looks ++ last.toOption.toList)) (fate.mapError (r.error p))

/-- What is heard in a run, and the events that it delivers, while nothing is decided. -/
inductive Stuck : List Heard → List ContainerEvent → Prop
  | unclear {heard : List Heard} (h : Unclear p.name heard) : Stuck heard []
  | creating {heard : List Heard} (h : Clears p.name heard) :
    Stuck (heard ++ [.created p.pod .hangs]) []
  | watching {heard : List Heard} {pod : Pod} {looks : List Pod} (h : Clears p.name heard)
    (hlooks : ∀ pod ∈ looks, Undecided pod) :
    Stuck (watched p heard pod (looks.map .ok)) (eventsAt p.name looks)
  | unanswered {heard : List Heard} {pod : Pod} {looks : List Pod} (h : Clears p.name heard)
    (hlooks : ∀ pod ∈ looks, Undecided pod) :
    Stuck (watched p heard pod (looks.map .ok) ++ [.found p.name .hangs]) (eventsAt p.name looks)
  /-- The events of the last look have not all been delivered. -/
  | delivering {heard : List Heard} {pod last : Pod} {looks : List Pod}
    {events : List ContainerEvent} (h : Clears p.name heard)
    (hlooks : ∀ pod ∈ looks, Undecided pod)
    (hbefore : eventsAt p.name looks <+: events)
    (hevents : events <+: eventsAt p.name (looks ++ [last])) :
    Stuck (watched p heard pod ((looks ++ [last]).map .ok)) events

end

/-! ## The calls of a course -/

def Heard.failure? : Heard → Option ClientError
  | .deleted _ (.answered (.error e)) => some e
  | .found _ (.answered (.error e)) => some e
  | _ => none

theorem failures_leaving (name : String) (left : List Pod) (more : List Heard) :
    (leaving name (left.map .ok) ++ more).filterMap Heard.failure? =
      more.filterMap Heard.failure? := by
  have hlooks : (looksAt name (left.map .ok)).filterMap Heard.failure? = [] := by
    simp [looksAt, Heard.failure?, List.filterMap_map, Function.comp_def]
  rw [List.filterMap_append, leaving, List.filterMap_cons_none rfl, hlooks, List.nil_append]

theorem leaving_concat (name : String) (answers : List (Except ClientError Pod))
    (a : Except ClientError Pod) :
    leaving name (answers ++ [a]) = leaving name answers ++ [.found name (.answered a)] := by
  simp [leaving, looksAt]

theorem watched_concat (p : StepPod) (heard : List Heard) (pod : Pod)
    (answers : List (Except ClientError Pod)) (a : Except ClientError Pod) :
    watched p heard pod (answers ++ [a]) =
      watched p heard pod answers ++ [.found p.name (.answered a)] := by
  simp [watched, looksAt]

theorem Clears.failures {name : String} {heard : List Heard} (h : Clears name heard) :
    ∃ e : ClientError, e.isNotFound = true ∧ heard.filterMap Heard.failure? = [e] := by
  cases h with
  | vacant h => exact ⟨_, h, rfl⟩
  | gone left h => exact ⟨_, h, by rw [leaving_concat, failures_leaving]; rfl⟩

theorem Blocks.failures {name : String} {heard : List Heard} {e : ClientError}
    (h : Blocks name heard e) :
    e.isNotFound = false ∧ heard.filterMap Heard.failure? = [e] := by
  cases h with
  | deletion h => exact ⟨h, rfl⟩
  | look left h => exact ⟨h, by rw [leaving_concat, failures_leaving]; rfl⟩

theorem Unclear.failures {name : String} {heard : List Heard} (h : Unclear name heard) :
    heard.filterMap Heard.failure? = [] := by
  cases h with
  | deleting => rfl
  | looking left => simpa using failures_leaving name left []
  | unanswered left => exact failures_leaving name left _

/-- What is heard of a pod before and behind its creation. -/
inductive Opening (p : StepPod) : List Heard → Prop
  | before {heard : List Heard} (h : Unclear p.name heard ∨ ∃ e, Blocks p.name heard e) :
    Opening p heard
  | created {heard : List Heard} (reply : Reply Pod) (looks : List (Reply Pod))
    (h : Clears p.name heard) :
    Opening p (heard ++ .created p.pod reply :: looks.map (.found p.name))

theorem Clears.opening {p : StepPod} {heard : List Heard} (h : Clears p.name heard) (pod : Pod)
    (answers : List (Except ClientError Pod)) : Opening p (watched p heard pod answers) := by
  have hopening := Opening.created (.answered (.ok pod)) (answers.map .answered) h
  rwa [List.map_map] at hopening

theorem Course.opening {r : Runner} {p : StepPod} {heard : List Heard}
    {events : List ContainerEvent} {result : Except ExecutionError Unit}
    (h : Course r p heard events result) : Opening p heard := by
  cases h with
  | blocked h => exact .before (.inr ⟨_, h⟩)
  | refused h => exact .created _ [] h
  | decided h => exact h.opening _ _

theorem Stuck.opening {p : StepPod} {heard : List Heard} {events : List ContainerEvent}
    (h : Stuck p heard events) : Opening p heard := by
  cases h with
  | unclear h => exact .before (.inl h)
  | creating h => exact .created _ [] h
  | watching h => exact h.opening _ _
  | delivering h => exact h.opening _ _
  | @unanswered _ pod looks h =>
    have hopening := Opening.created (.answered (.ok pod))
      ((looks.map Except.ok).map Reply.answered ++ [.hangs]) h
    rw [List.map_append, List.map_map] at hopening
    rw [watched, List.append_assoc]
    exact hopening

theorem calls_leaving (name : String) (answers : List (Except ClientError Pod)) :
    (leaving name answers).map Heard.call =
      .deletePod name :: List.replicate answers.length (.getPod name) := by
  simp [leaving, looksAt, Heard.call, Function.comp_def, List.map_const']

theorem Clears.calls {name : String} {heard : List Heard} (h : Clears name heard) :
    ∃ k, heard.map Heard.call = .deletePod name :: List.replicate k (.getPod name) := by
  cases h with
  | vacant _ => exact ⟨0, rfl⟩
  | gone left _ => exact ⟨_, calls_leaving _ _⟩

/-- The pod of the name is deleted, then looked at until it is gone; then one is created and looked
at. -/
theorem Opening.calls {p : StepPod} {heard : List Heard} (h : Opening p heard) :
    ∃ k, heard.map Heard.call = .deletePod p.name :: List.replicate k (.getPod p.name) ∨
      ∃ m, heard.map Heard.call = .deletePod p.name :: List.replicate k (.getPod p.name) ++
        .createPod p.pod :: List.replicate m (.getPod p.name) := by
  cases h with
  | before h =>
    rcases h with h | ⟨e, h⟩
    · cases h with
      | deleting => exact ⟨0, .inl rfl⟩
      | looking left => exact ⟨_, .inl (calls_leaving _ _)⟩
      | unanswered left =>
        refine ⟨left.length + 1, .inl ?_⟩
        rw [List.map_append, calls_leaving, List.length_map, List.replicate_succ']
        rfl
    · cases h with
      | deletion _ => exact ⟨0, .inl rfl⟩
      | look left _ => exact ⟨_, .inl (calls_leaving _ _)⟩
  | created reply looks h =>
    obtain ⟨k, hk⟩ := h.calls
    refine ⟨k, .inr ⟨looks.length, ?_⟩⟩
    rw [List.map_append, hk, List.map_cons, List.map_map]
    simp [Heard.call, Function.comp_def, List.map_const']

/-- The pod is created exactly where there is none of its name. -/
theorem Opening.created_iff {p : StepPod} {heard : List Heard} (h : Opening p heard) :
    .createPod p.pod ∈ heard.map Heard.call ↔ ∃ l, Clears p.name l ∧ l <+: heard := by
  cases h with
  | created reply looks h =>
    refine ⟨fun _ => ⟨_, h, List.prefix_append _ _⟩, fun _ => ?_⟩
    simp [Heard.call]
  | before h =>
    have hcalls : .createPod p.pod ∉ heard.map Heard.call := by
      rcases h with h | ⟨e, h⟩ <;> cases h <;> simp [leaving, looksAt, Heard.call]
    refine ⟨fun hmem => absurd hmem hcalls, fun ⟨l, hl, hpre⟩ => ?_⟩
    -- the answers that refuse a deletion or a look tell the two cases apart
    obtain ⟨e, he, hfailures⟩ := hl.failures
    have hpre' := hpre.filterMap Heard.failure?
    rw [hfailures] at hpre'
    rcases h with h | ⟨e', h⟩
    · rw [h.failures] at hpre'
      exact absurd (List.prefix_nil.mp hpre') (List.cons_ne_nil _ _)
    · rw [h.failures.2] at hpre'
      obtain ⟨rfl, -⟩ := List.cons_prefix_cons.mp hpre'
      rw [h.failures.1] at he
      cases he

/-! ## Looking at a pod -/

theorem PodPhase.ofStatus_eq_succeeded {phase : Option String} :
    ofStatus phase = .succeeded ↔ phase = some "Succeeded" := by
  cases phase with
  | none => simp [ofStatus]
  | some s =>
    simp only [ofStatus]
    split_ifs <;> simp_all

theorem PodPhase.ofStatus_eq_failed {phase : Option String} :
    ofStatus phase = .failed ↔ phase = some "Failed" := by
  cases phase with
  | none => simp [ofStatus]
  | some s =>
    simp only [ofStatus]
    split_ifs <;> simp_all

theorem eventsAt_concat (name : String) (looks : List Pod) (pod : Pod) :
    eventsAt name (looks ++ [pod]) = eventsAt name looks ++
      ((Tracker.fresh.diffAll name looks).1.diff name pod).2 := by
  simp only [eventsAt, Tracker.diffAll_append, Tracker.diffAll, List.append_nil]

theorem diffAll_concat (name : String) (looks : List Pod) (pod : Pod) :
    (Tracker.fresh.diffAll name (looks ++ [pod])).1 =
      ((Tracker.fresh.diffAll name looks).1.diff name pod).1 := by
  simp only [Tracker.diffAll_append, Tracker.diffAll]

section

variable {r : Runner} {p : StepPod} {heard : List Heard} {pod : Pod} {looks : List Pod}
  (hclears : Clears p.name heard) (hlooks : ∀ pod ∈ looks, Undecided pod)
include hclears hlooks

/-- An answer that shows no pod decides what came of it, and shows no events. -/
theorem Course.unseen (e : ClientError) :
    Course r p (watched p heard pod (looks.map .ok ++ [.error e])) (eventsAt p.name looks)
      (.error (r.error p (if e.isNotFound then .deleted else .wait e))) := by
  have hevents : eventsAt p.name looks =
      eventsAt p.name (looks ++ (Except.error e : Except ClientError Pod).toOption.toList) := by
    simp [Except.toOption]
  rw [hevents]
  cases hfound : e.isNotFound with
  | true => exact .decided hclears hlooks (.gone hfound)
  | false => exact .decided hclears hlooks (.lost hfound)

theorem Course.seen {last : Pod} {fate : Except ExecutionFault Unit}
    (hlast : Decides (.ok last) fate) :
    Course r p (watched p heard pod ((looks ++ [last]).map .ok))
      (eventsAt p.name (looks ++ [last])) (fate.mapError (r.error p)) := by
  rw [List.map_append]
  exact .decided hclears hlooks hlast

end

/-- Nothing is decided, and an answer has not come or the run was given up. -/
def GivenUp (p : StepPod) (patience : Nat) (w₀ : World (σ × List Sight)) :
    World (σ × List Sight) → Prop :=
  OrCancelled fun w => ∃ watchers heard events, Heeds w₀ watchers true heard [] events w ∧
    Stuck p heard events ∧ (w.Hanging ∨ patience < heard.length)

def Settled (r : Runner) (p : StepPod) (w₀ : World (σ × List Sight))
    (watchers : List (Watcher Reaction)) (result : Except ExecutionError Unit) :
    World (σ × List Sight) → Prop :=
  OrCancelled fun w => ∃ heard events, Heeds w₀ watchers false heard [] events w ∧
    Course r p heard events result

section

variable {p : StepPod} {w₀ w : World (σ × List Sight)} {watchers : List (Watcher Reaction)}
  {loose : Bool} {heard : List Heard} {events : List ContainerEvent} {patience : Nat}

theorem Heeds.givenUp (h : Heeds w₀ watchers loose heard [] events w)
    (hstuck : Stuck p heard events) (hwhy : w.Hanging ∨ patience < heard.length) :
    GivenUp p patience w₀ w :=
  .inr ⟨watchers, heard, events, h.loosen, hstuck, hwhy⟩

theorem Heeding.givenUp {x : Heard} (h : Heeding w₀ watchers loose (heard ++ [x]) [] events w)
    (hx : x.isHanging = true) (hstuck : Stuck p (heard ++ [x]) events) :
    GivenUp p patience w₀ w := by
  rcases h with hc | h
  · exact .inl hc
  · refine h.givenUp hstuck (.inl (World.hanging_of_heard (h := x) ?_ hx))
    rw [h.heard_eq]
    exact List.mem_append_right _ (List.mem_singleton_self _)

end

section

variable (env : Surroundings σ) (r : Runner) (p : StepPod) (w₀ : World (σ × List Sight))
  (watchers : List (Watcher Reaction)) (heard : List Heard) (events : List ContainerEvent)

theorem look_heeding (name : String) :
    Meets (Heeding w₀ watchers false heard [] events)
      (Task.call env.traced (.getPod name) (env.traced.pods.get name))
      (fun a => Heeding w₀ watchers false (heard ++ [.found name (.answered a)]) [] events)
      (Heeding w₀ watchers false (heard ++ [.found name .hangs]) [] events) :=
  Task.call_heeding env w₀ watchers heard events (.found name) rfl (fun _ => rfl)
    (env.pods.get name)

theorem sleep_heeding (looks : Nat) :
    Meets (Heeding w₀ watchers false heard [] events) (r.sleep env.traced looks)
      (fun _ => Heeding w₀ watchers false heard [] events) (OrCancelled fun _ => False) := by
  unfold Runner.sleep
  split
  · exact .done fun _ hw => hw
  · exact Task.pause_heeding env w₀ watchers heard [] events _

theorem Runner.sleep_breaks {S : World σ → Prop} (env : Surroundings σ) (looks : Nat) :
    Breaks World.Collecting S (r.sleep env looks) := by
  unfold Runner.sleep
  split
  · exact .done ()
  · exact Task.pause_breaks env _

/-- A pod that was deleted is looked at until it is gone. -/
theorem awaitGone_heeding (n : Nat) (left : List Pod) (hn : n + left.length = env.patience) :
    Meets (Heeding w₀ watchers false (leaving p.name (left.map .ok)) [] [])
      (r.awaitGone env.traced p.name n)
      (fun result => OrCancelled fun w => ∃ heard, Heeds w₀ watchers false heard [] [] w ∧
        match result with
        | .ok _ => Clears p.name heard
        | .error e => Blocks p.name heard e)
      (GivenUp p env.patience w₀) := by
  -- on the looks that are left: those made so far have all found a pod
  induction n generalizing left with
  | zero =>
    refine fun w hw => ⟨fun _ _ h => (nomatch h), fun _ => ?_⟩
    rcases hw with hc | h
    · exact .inl hc
    · refine h.givenUp (.unclear (.looking left)) (.inr ?_)
      simp only [leaving, looksAt, List.length_cons, List.length_map]
      omega
  | succ n ih =>
    refine .bind ((look_heeding env w₀ watchers _ [] p.name).weaken (fun _ hw => hw)
      (fun _ _ hw => hw) fun _ hw => Heeding.givenUp hw rfl (.unclear (.unanswered left)))
      fun answer => ?_
    rw [← leaving_concat]
    cases answer with
    | error e =>
      refine .done fun w hw => hw.imp rfl fun h => ⟨_, h, ?_⟩
      cases hfound : e.isNotFound with
      | true => exact .gone left hfound
      | false => exact .look left hfound
    | ok pod =>
      have hmap : left.map Except.ok ++ [.ok pod] =
          ((left ++ [pod]).map Except.ok : List (Except ClientError Pod)) := by simp
      rw [hmap]
      refine .bind ((sleep_heeding env r w₀ watchers _ [] n).weaken (fun _ hw => hw)
        (fun _ _ hw => hw) fun _ hw => hw.imp rfl fun h => h.elim) fun _ =>
        ih (left ++ [pod]) ?_
      simp only [List.length_append, List.length_singleton]
      omega

theorem create_heeding (hclears : Clears p.name heard) :
    Meets (Heeding w₀ watchers false heard [] []) (Runner.create env.traced p)
      (fun result => OrCancelled fun w => match result with
        | .ok _ => ∃ pod, Heeds w₀ watchers false (watched p heard pod []) [] [] w
        | .error e => ∃ heard, Heeds w₀ watchers false heard [] [] w ∧
          Course r p heard [] (.error (r.error p (.create e))))
      (GivenUp p env.patience w₀) := by
  have hcall := Task.call_heeding env w₀ watchers heard [] (.created p.pod) rfl (fun _ => rfl)
    (env.pods.create p.pod)
  refine .bind (hcall.weaken (fun _ hw => hw) (fun _ _ hw => hw) fun _ hw =>
    Heeding.givenUp hw rfl (.creating hclears)) fun answer => ?_
  cases answer with
  | ok pod => exact .done fun w hw => hw.imp rfl fun h => ⟨pod, h⟩
  | error e => exact .done fun w hw => hw.imp rfl fun h => ⟨_, h, .refused hclears⟩

theorem createOrRestart_heeding :
    Meets (Heeding w₀ watchers false [] [] []) (r.createOrRestart env.traced p)
      (fun result => OrCancelled fun w => match result with
        | .ok _ => ∃ heard pod, Heeds w₀ watchers false (watched p heard pod []) [] [] w ∧
          Clears p.name heard
        | .error e => ∃ heard, Heeds w₀ watchers false heard [] [] w ∧
          Course r p heard [] (.error (r.error p (.create e))))
      (GivenUp p env.patience w₀) := by
  have hcreate : ∀ heard, Clears p.name heard → Meets (Heeding w₀ watchers false heard [] [])
      (Runner.create env.traced p)
      (fun result => OrCancelled fun w => match result with
        | .ok _ => ∃ heard pod, Heeds w₀ watchers false (watched p heard pod []) [] [] w ∧
          Clears p.name heard
        | .error e => ∃ heard, Heeds w₀ watchers false heard [] [] w ∧
          Course r p heard [] (.error (r.error p (.create e))))
      (GivenUp p env.patience w₀) := fun heard hclears =>
    (create_heeding env r p w₀ watchers heard hclears).weaken (fun _ hw => hw)
      (fun result w hw => hw.imp rfl fun h => by
        cases result with
        | ok _ => exact ⟨heard, h.choose, h.choose_spec, hclears⟩
        | error e => exact h)
      fun _ hw => hw
  have hdelete := Task.call_heeding env w₀ watchers [] [] (.deleted p.name) rfl (fun _ => rfl)
    (env.pods.delete p.name)
  have hnever : ∀ w, Heeding w₀ watchers false ([] ++ [.deleted p.name .hangs]) [] [] w →
      GivenUp p env.patience w₀ w := fun _ hw => Heeding.givenUp hw rfl (.unclear .deleting)
  refine .bind (hdelete.weaken (fun _ hw => hw) (fun _ _ hw => hw) hnever) fun answer => ?_
  cases answer with
  | error e =>
    dsimp only
    split <;> rename_i hfound
    · exact hcreate _ (.vacant hfound)
    · exact .done fun w hw => hw.imp rfl fun h =>
        ⟨_, h, .blocked (.deletion (Bool.not_eq_true _ ▸ hfound))⟩
  | ok _ =>
    refine .bind (awaitGone_heeding env r p w₀ watchers env.patience [] (by simp)) fun result => ?_
    cases result with
    | ok _ =>
      exact .orCancelled ((keptByRuns_cancelled env.traced).create trivial)
        (.of_exists fun heard => .known fun hclears =>
          (hcreate heard hclears).weaken (fun _ hw => .inr hw) (fun _ _ hw => hw) fun _ hw => hw)
    | error e =>
      exact .done fun w hw => hw.imp rfl fun ⟨heard, h, hblocks⟩ => ⟨heard, h, .blocked hblocks⟩

theorem cancelled_heeding {Q : Except ExecutionError Unit → World (σ × List Sight) → Prop}
    {R : World (σ × List Sight) → Prop} :
    Meets (fun w => w.token.isCancelled = true) (r.cancelled p : Task (σ × List Sight) _)
      (fun result => OrCancelled (Q result)) R :=
  .bind (Q := fun _ w => w.token.isCancelled = true) (.look fun _ hw => hw) fun _ =>
    .done fun _ hw => .inl hw

section

variable {heard} {pod : Pod} {looks : List Pod}
  (hclears : Clears p.name heard) (hlooks : ∀ pod ∈ looks, Undecided pod)
include hclears hlooks

theorem lookAgain_heeding :
    Meets (Heeding w₀ watchers false (watched p heard pod (looks.map .ok)) []
        (eventsAt p.name looks))
      (Task.race env.traced (Task.call env.traced (.getPod p.name) (env.traced.pods.get p.name)))
      (fun answer w => match answer with
        | none => w.token.isCancelled = true
        | some a => Heeding w₀ watchers false (watched p heard pod (looks.map .ok ++ [a])) []
          (eventsAt p.name looks) w)
      (GivenUp p env.patience w₀) := by
  have hlook := Task.race_heeding env (look_heeding env w₀ watchers
      (watched p heard pod (looks.map .ok)) (eventsAt p.name looks) p.name)
    (Task.call_breaks (S := fun _ => True) ⟨fun _ _ _ => trivial, fun _ _ _ => trivial⟩
      fun _ _ _ => trivial)
    fun _ hw => hw.imp rfl fun h => h.of_eq rfl (fun _ hc => hc) rfl rfl
  refine hlook.weaken (fun _ hw => hw) (fun answer w hw => ?_) fun _ hw =>
    hw.givenUp rfl (.unanswered hclears hlooks)
  cases answer with
  | none => exact hw
  | some a =>
    dsimp only at hw ⊢
    rw [watched_concat]
    exact hw

theorem deliverLook_heeding (last : Pod) :
    Meets (Heeding w₀ watchers false (watched p heard pod ((looks ++ [last]).map .ok)) []
        (eventsAt p.name looks))
      (Runner.deliverAll env.traced ((Tracker.fresh.diffAll p.name looks).1.diff p.name last).2)
      (fun delivered w =>
        if delivered then Heeding w₀ watchers false (watched p heard pod ((looks ++ [last]).map .ok))
          [] (eventsAt p.name (looks ++ [last])) w
        else w.token.isCancelled = true)
      (GivenUp p env.patience w₀) := by
  have hdeliver := Runner.deliverAll_heeding env w₀ watchers
    (watched p heard pod ((looks ++ [last]).map .ok)) (eventsAt p.name looks)
    ((Tracker.fresh.diffAll p.name looks).1.diff p.name last).2
  rw [← eventsAt_concat] at hdeliver
  refine hdeliver.weaken (fun _ hw => hw) (fun _ _ hw => hw) fun _ hw => ?_
  rcases hw with hc | ⟨first, hfirst, h, hhanging⟩
  · exact .inl hc
  · refine h.givenUp (.delivering hclears hlooks (List.prefix_append _ _) ?_) (.inl hhanging)
    rw [eventsAt_concat]
    exact (List.prefix_append_right_inj _).mpr hfirst

end

/-- A pod that was created is looked at until an answer decides what came of it. -/
theorem watch_heeding {pod : Pod} (hclears : Clears p.name heard) (n : Nat) (looks : List Pod)
    (hlooks : ∀ pod ∈ looks, Undecided pod) (hn : n + looks.length = env.patience) :
    Meets (Heeding w₀ watchers false (watched p heard pod (looks.map .ok)) []
        (eventsAt p.name looks))
      (r.watch env.traced p n (Tracker.fresh.diffAll p.name looks).1)
      (fun result => Settled r p w₀ watchers result) (GivenUp p env.patience w₀) := by
  -- on the looks that are left: those made so far have decided nothing, and their events have all
  -- been delivered
  induction n generalizing looks with
  | zero =>
    refine fun w hw => ⟨fun _ _ h => (nomatch h), fun _ => ?_⟩
    rcases hw with hc | h
    · exact .inl hc
    · refine h.givenUp (.watching hclears hlooks) (.inr ?_)
      simp only [watched, looksAt, List.length_append, List.length_cons, List.length_map]
      omega
  | succ n ih =>
    refine .bind (lookAgain_heeding env p w₀ watchers hclears hlooks) fun answer => ?_
    match answer with
    | none => exact cancelled_heeding r p
    | some (.error e) =>
      exact .done fun w hw => hw.imp rfl fun h => ⟨_, _, h, .unseen hclears hlooks e⟩
    | some (.ok last) =>
      have hmap : looks.map Except.ok ++ [.ok last] =
          ((looks ++ [last]).map Except.ok : List (Except ClientError Pod)) := by simp
      dsimp only
      rw [hmap]
      refine .bind (deliverLook_heeding env p w₀ watchers hclears hlooks last) fun delivered => ?_
      cases delivered with
      | false => exact cancelled_heeding r p
      | true =>
        simp only [if_true]
        split
        · rename_i hphase
          exact .done fun w hw => hw.imp rfl fun h => ⟨_, _, h, .seen hclears hlooks
            (.succeeded (PodPhase.ofStatus_eq_succeeded.mp hphase))⟩
        · rename_i hphase
          exact .done fun w hw => hw.imp rfl fun h => ⟨_, _, h, .seen hclears hlooks
            (.failed (PodPhase.ofStatus_eq_failed.mp hphase))⟩
        · rename_i hsucceeded hfailed
          have hundecided : Undecided last :=
            ⟨fun h => hsucceeded (PodPhase.ofStatus_eq_succeeded.mpr h),
              fun h => hfailed (PodPhase.ofStatus_eq_failed.mpr h)⟩
          have hlooks' : ∀ pod ∈ looks ++ [last], Undecided pod :=
            List.forall_mem_append.mpr ⟨hlooks, List.forall_mem_singleton.mpr hundecided⟩
          have hsleep := Task.race_heeding env (sleep_heeding env r w₀ watchers
              (watched p heard pod ((looks ++ [last]).map .ok)) (eventsAt p.name (looks ++ [last])) n)
            (Runner.sleep_breaks (S := fun _ => True) r env.traced n)
            fun w hw => hw.imp rfl fun h => h
          refine .bind (hsleep.weaken (fun _ hw => hw) (fun _ _ hw => hw) fun _ hw =>
            hw.imp rfl fun h => h.elim) fun slept => ?_
          cases slept with
          | none => exact cancelled_heeding r p
          | some _ =>
            rw [← diffAll_concat]
            refine ih (looks ++ [last]) hlooks' ?_
            simp only [List.length_append, List.length_singleton]
            omega

end

/-! ## Closing the scope -/

section

variable (env : Surroundings σ) (w₀ : World (σ × List Sight)) (watchers : List (Watcher Reaction))
  (heard : List Heard) (events : List ContainerEvent)

theorem openScope_heeding :
    Meets (Heeding w₀ watchers false heard [] events) (Task.openScope .cancelObserver)
      (fun _ => Heeding w₀ (watchers ++ [⟨.cancelObserver, .waiting⟩]) false heard [] events)
      (OrCancelled fun _ => False) :=
  .change fun _ hw => hw.imp rfl fun h =>
    { watching := h.watching.append_waiting _
      idle := h.idle
      heard_eq := h.heard_eq
      log := (h.quiet (e := .opened .cancelObserver) rfl rfl).log }

theorem closeScope_heeding :
    Meets (Heeding w₀ (watchers ++ [⟨.cancelObserver, .waiting⟩]) false heard [] events)
      (Task.closeScope env.traced .cancelObserver)
      (fun _ => Heeding w₀ watchers false heard [] events) (OrCancelled fun _ => False) := by
  have hfinish : Meets
      (Heeding w₀ (watchers ++ [⟨.cancelObserver, .waiting⟩]) false heard [] events)
      (Task.finishWatcher env.traced) (fun _ => Heeding w₀ watchers false heard [] events)
      (OrCancelled fun _ => False) := by
    have hkept := (keptByRuns_cancelled env.traced).finishWatcher
    rintro w (hc | h)
    · exact ⟨fun _ _ heq => .inl (hkept.returned hc heq), fun _ => .inl (hkept w hc)⟩
    · cases hc : w.token.isCancelled with
      | true => exact ⟨fun _ _ heq => .inl (hkept.returned hc heq), fun _ => .inl (hkept w hc)⟩
      | false =>
        obtain ⟨l, hl, hreturned⟩ := Task.finishWatcher_of_uncancelled env.traced hc h.watching
        rw [hreturned]
        refine ⟨fun _ _ heq => .inr ?_, fun hnot => nomatch hnot⟩
        cases heq
        exact { h with watching := hl }
  refine .closeScope _ (fun w hw => hw.imp rfl fun h => ?_)
    (Task.pause_heeding env w₀ _ heard [] events .closing) hfinish
    fun _ hw => hw.imp rfl fun h => h.quiet rfl rfl
  have hclosing : Heeds w₀ (watchers ++ [⟨.cancelObserver, .waiting⟩]) false heard [] events
      { w with closing := true } := h.of_eq rfl (fun _ hc => hc) rfl rfl
  exact hclosing.quiet rfl rfl

end

/-! ## Whole runs -/

namespace Runner

variable (env : Surroundings σ) (r : Runner) (p : StepPod)

theorem run_settled (hdry : r.dry = false) (w₀ : World (σ × List Sight))
    (watchers : List (Watcher Reaction)) :
    Meets (Heeding w₀ watchers false [] [] []) (r.run env.traced p)
      (fun result => Settled r p w₀ watchers result) (GivenUp p env.patience w₀) := by
  have hkept := keptByRuns_cancelled env.traced
  have hpauses := keptAtPauses_heeding env w₀ watchers false [] [] []
  unfold run
  rw [if_neg (by simp [hdry])]
  refine .bind (Q := fun cancelled w => Heeding w₀ watchers false [] [] [] w ∧
    (cancelled = true → w.token.isCancelled = true)) ?_ fun cancelled => ?_
  · exact .bind (Q := fun _ => Heeding w₀ watchers false [] [] [])
      (.change (hpauses.pass .checking)) fun _ => .look fun _ hw => ⟨hw, id⟩
  · cases cancelled with
    | true =>
      exact (cancelled_heeding r p).weaken (fun _ hw => hw.2 rfl) (fun _ _ hw => hw) fun _ hw => hw
    | false =>
      refine .bind ((createOrRestart_heeding env r p w₀ watchers).weaken (fun _ hw => hw.1)
        (fun _ _ hw => hw) fun _ hw => hw) fun created => ?_
      cases created with
      | error e =>
        exact .done fun w hw => hw.imp rfl fun ⟨heard, h, hcourse⟩ => ⟨heard, [], h, hcourse⟩
      | ok _ =>
        -- what was heard is known of runs that nobody cancels only
        refine .orCancelled ?_ (.of_exists fun heard => .of_exists fun pod =>
          .known fun hclears => ?_)
        · exact .bind (hkept.opened _) fun _ => .bind (hkept.watch r trivial _ _) fun result =>
            .bind (hkept.closeScope _) fun _ => .bind (hkept.report result) fun _ => .done _
        · refine .bind ((openScope_heeding w₀ watchers _ []).weaken (fun _ hw => .inr hw)
            (fun _ _ hw => hw) fun _ hw => hw.imp rfl fun h => h.elim) fun _ =>
            .bind (watch_heeding env r p w₀ _ heard hclears env.patience [] (by simp) (by simp))
              fun result => ?_
          refine .orCancelled ?_ (.of_exists fun heard => .of_exists fun events =>
            .known fun hcourse => ?_)
          · exact .bind (hkept.closeScope _) fun _ => .bind (hkept.report result) fun _ => .done _
          · refine .bind ((closeScope_heeding env w₀ watchers heard events).weaken
              (fun _ hw => .inr hw) (fun _ _ hw => hw) fun _ hw => hw.imp rfl fun h => h.elim)
              fun _ => .bind (Q := fun _ => Heeding w₀ watchers false heard [] events) ?_
                fun _ => .done fun w hw => hw.imp rfl fun h => ⟨heard, events, h, hcourse⟩
            cases result with
            | ok _ => exact .done fun _ hw => hw
            | error e => exact .change fun w hw => hw.imp rfl fun h => h.quiet rfl rfl

/-- What a run has called and delivered follows from what was heard. -/
structure Proceeds (patience : Nat) (outcome : Outcome (Except ExecutionError Unit))
    (sights : List Sight) (log : List Entry) : Prop where
  calls_eq : podCallsIn log = (repliesIn sights).map Heard.call
  /-- A deletion comes first, then looks, then at most one creation, then looks. -/
  ordered : ∃ k, podCallsIn log = .deletePod p.name :: List.replicate k (.getPod p.name) ∨
    ∃ m, podCallsIn log = .deletePod p.name :: List.replicate k (.getPod p.name) ++
      .createPod p.pod :: List.replicate m (.getPod p.name)
  created_iff : .createPod p.pod ∈ podCallsIn log ↔
    ∃ l, Clears p.name l ∧ l <+: repliesIn sights
  settled : ∀ result, outcome = .returned result →
    Course r p (repliesIn sights) (deliveredIn log) result
  stuck : outcome.isReturned = false → Stuck p (repliesIn sights) (deliveredIn log) ∧
    ((∃ x ∈ sights, x.isHanging = true) ∨ patience < (repliesIn sights).length)

theorem proceeds_of_heeds {patience : Nat} {outcome : Outcome (Except ExecutionError Unit)}
    {w₀ w : World σ} {sights : List Sight} {watchers : List (Watcher Reaction)} {loose : Bool}
    {heard : List Heard} {events : List ContainerEvent}
    (h : Heeds (w₀.traced []) watchers loose heard [] events (w.traced sights))
    (hopening : Opening p heard)
    (hsettled : ∀ result, outcome = .returned result → Course r p heard events result)
    (hstuck : outcome.isReturned = false → Stuck p heard events ∧
      ((∃ x ∈ sights, x.isHanging = true) ∨ patience < heard.length)) :
    ∃ log, w.journal = w₀.journal ++ log ∧ r.Proceeds p patience outcome sights log := by
  obtain ⟨log, hjournal, hcalls, hevents⟩ := h.log
  rw [List.append_nil] at hcalls
  have hheard : repliesIn sights = heard := h.heard_eq
  refine ⟨log, hjournal, ?_, ?_, ?_, ?_, ?_⟩
  · rw [hcalls, hheard]
  · rw [hcalls]
    exact hopening.calls
  · rw [hcalls, hheard]
    exact hopening.created_iff
  · rw [hheard, hevents]
    exact hsettled
  · rw [hheard, hevents]
    exact hstuck

/-- The run of a pod that nobody cancels takes its course: what it calls, delivers and returns is
decided by what is heard. If it does not return, a call is never answered or the run was given up
behind many looks. -/
theorem run_proceeds (hdry : r.dry = false) (w : World σ) (hidle : w.collecting = false)
    (hgoing : (r.run env p w).2.token.isCancelled = false) :
    ∃ sights log,
      r.run env.traced p (w.traced []) = ((r.run env p w).1, (r.run env p w).2.traced sights) ∧
      (r.run env p w).2.journal = w.journal ++ log ∧
      r.Proceeds p env.patience (r.run env p w).1 sights log := by
  obtain ⟨sights, hrun⟩ := r.run_traced env p w
  have hmeets := r.run_settled env p hdry (w.traced []) w.watchers (w.traced [])
    (.inr (.start _ hidle rfl))
  rw [hrun] at hmeets
  obtain ⟨hreturned, hended⟩ := hmeets
  have hnot : ¬ ((r.run env p w).2.traced sights).token.isCancelled = true :=
    Bool.eq_false_iff.mp hgoing
  rcases heq : r.run env p w with ⟨outcome, v⟩
  rw [heq] at hrun hreturned hended hnot
  have hproceeds : ∃ log, v.journal = w.journal ++ log ∧
      r.Proceeds p env.patience outcome sights log := by
    cases ho : outcome.isReturned with
    | true =>
      obtain ⟨result, rfl⟩ : ∃ result, outcome = .returned result := by
        cases outcome with
        | returned result => exact ⟨result, rfl⟩
        | dropped | abandoned | stalled => cases ho
      obtain ⟨heard, events, h, hcourse⟩ := (hreturned result _ rfl).resolve_left hnot
      exact r.proceeds_of_heeds p h hcourse.opening (fun _ h => by cases h; exact hcourse)
        fun h => nomatch h
    | false =>
      obtain ⟨_, heard, events, h, hstuck, hwhy⟩ := (hended ho).resolve_left hnot
      exact r.proceeds_of_heeds p h hstuck.opening (fun _ h => by rw [h] at ho; cases ho)
        fun _ => ⟨hstuck, hwhy⟩
  obtain ⟨log, hjournal, hlog⟩ := hproceeds
  exact ⟨sights, log, hrun, hjournal, hlog⟩

open Rehearsal (probe probeRunner)

theorem run_proceeds_vanishing :
    (probeRunner.run (Script.surroundings Rehearsal.now) probe
      beforeVanishing).2.token.isCancelled = false ∧
    ∃ sights log,
      probeRunner.run (Script.surroundings Rehearsal.now).traced probe (beforeVanishing.traced []) =
        ((probeRunner.run (Script.surroundings Rehearsal.now) probe beforeVanishing).1,
          (probeRunner.run (Script.surroundings Rehearsal.now) probe
            beforeVanishing).2.traced sights) ∧
      (probeRunner.run (Script.surroundings Rehearsal.now) probe beforeVanishing).2.journal =
        beforeVanishing.journal ++ log ∧
      probeRunner.Proceeds probe (Script.surroundings Rehearsal.now).patience
        (probeRunner.run (Script.surroundings Rehearsal.now) probe beforeVanishing).1 sights log := by
  have hgoing : (probeRunner.run (Script.surroundings Rehearsal.now) probe
      beforeVanishing).2.token.isCancelled = false := by decide +kernel
  exact ⟨hgoing, run_proceeds (Script.surroundings Rehearsal.now) probeRunner probe rfl
    beforeVanishing rfl hgoing⟩

end Runner

end StagedTests
