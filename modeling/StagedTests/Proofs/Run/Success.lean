import StagedTests.Proofs.Cluster.Obliging
import StagedTests.Proofs.Run.Plan
import StagedTests.Proofs.Run.Release

/-!
# Runs in which all goes well

On an obliging cluster the run of a test returns. It puts the secret of results and the pods of all
phases in place, in their order, and fails for nothing but a step that has no pod.
-/

namespace StagedTests

variable {σ : Type}

open StagedTests.Task (Keeps Meets Returns)

/-! ## What a run creates -/

/-- The object that a call is to create, as a dry run would record it. -/
def Call.created? : Call → Option RecordedObject
  | .createSecret x => some ⟨"Secret", x.name, x.toJson.sorted⟩
  | .createPod p => some ⟨"Pod", p.name, p.toJson.sorted⟩
  | _ => none

def Entry.created? : Entry → Option RecordedObject
  | .called c => c.created?
  | _ => none

def World.createdObjects (w : World σ) : DryRecord := w.journal.filterMap Entry.created?

theorem World.createdObjects_note (w : World σ) (e : Entry) :
    (w.note e).createdObjects = w.createdObjects ++ e.created?.toList := by
  rw [createdObjects, createdObjects, note, List.filterMap_append]
  cases h : e.created? <;> simp [h]

/-- All goes well: nobody has cancelled the run or its observer, of these watchers some may have been
let go, and behind the objects created so far some of all objects are still to be created. -/
structure Going (A : σ → Prop) (watchers : List (Watcher Reaction)) (todo total : DryRecord)
    (w : World σ) : Prop where
  cluster : A w.cluster
  uncancelled : w.token.isCancelled = false
  watching : Eased watchers w.watchers
  unstopped : w.observer.nested.isStopped = false
  objects : w.createdObjects ++ todo = total

section

variable {env : Surroundings σ} {A : σ → Prop} {watchers : List (Watcher Reaction)}
  {todo total : DryRecord} {w : World σ}

theorem Going.note (h : Going A watchers todo total w) {e : Entry} (he : e.created? = none) :
    Going A watchers todo total (w.note e) := by
  refine ⟨h.cluster, h.uncancelled, h.watching, h.unstopped, ?_⟩
  rw [World.createdObjects_note, he]
  exact (congrArg (· ++ todo) (List.append_nil _)).trans h.objects

theorem Going.of_cluster (h : Going A watchers todo total w) {B : σ → Prop} (hB : B w.cluster) :
    Going B watchers todo total w :=
  ⟨hB, h.uncancelled, h.watching, h.unstopped, h.objects⟩

theorem Surroundings.turns_of_uncancelled (env : Surroundings σ)
    (h : w.token.isCancelled = false) (hw : Eased watchers w.watchers) {turns : List Happening}
    (hturns : ∀ x ∈ turns, ∃ i, x = .turn i) :
    ∃ l, Eased watchers l ∧ turns.foldl env.happen w = { w with watchers := l } := by
  induction turns generalizing w with
  | nil => exact ⟨w.watchers, hw, rfl⟩
  | cons x rest ih =>
    obtain ⟨⟨i, rfl⟩, hrest⟩ := List.forall_mem_cons.mp hturns
    obtain ⟨l, hl, hturn⟩ := env.turn_of_uncancelled h hw i
    have hhappen : env.happen w (.turn i) = { w with watchers := l } := hturn
    obtain ⟨l', hl', heq⟩ := ih (w := { w with watchers := l }) h hl hrest
    exact ⟨l', hl', by rw [List.foldl_cons, hhappen, heq]⟩

section

variable (h : Calm env A)
include h

theorem Going.meanwhile (hw : Going A watchers todo total w) (m : Moment) :
    Going A watchers todo total
      ((env.meanwhile m w.watchers.length w.cluster).1.happenings.foldl env.happen
        { w with cluster := (env.meanwhile m w.watchers.length w.cluster).2 }) := by
  obtain ⟨l, hl, hturns⟩ := env.turns_of_uncancelled
    (w := { w with cluster := (env.meanwhile m w.watchers.length w.cluster).2 }) hw.uncancelled
    hw.watching (h.quiet m w.watchers.length _ hw.cluster)
  rw [hturns]
  exact ⟨h.kept m _ _ hw.cluster, hw.uncancelled, hl, hw.unstopped, hw.objects⟩

theorem pass_returns (m : Moment) : Returns (Going A watchers todo total) (Task.pass env m)
    fun _ => Going A watchers todo total := .change fun _ hw => hw.meanwhile h m

theorem pause_returns (m : Moment) : Returns (Going A watchers todo total) (Task.pause env m)
    fun _ => Going A watchers todo total := by
  intro w hw
  have hgoing := hw.meanwhile h m
  have hresume : Task.resume ((env.meanwhile m w.watchers.length w.cluster).1.happenings.foldl
      env.happen { w with cluster := (env.meanwhile m w.watchers.length w.cluster).2 }) =
        .returned () := by
    rw [Task.resume, hgoing.uncancelled, hgoing.unstopped, Bool.and_false, Bool.and_false]
    rfl
  have hpause : Task.pause env m w =
      (.returned (), (env.meanwhile m w.watchers.length w.cluster).1.happenings.foldl
        env.happen { w with cluster := (env.meanwhile m w.watchers.length w.cluster).2 }) := by
    simp only [Task.pause, hresume, ite_self]
  rw [hpause]
  refine ⟨fun a w' heq => ?_, fun hnot => nomatch hnot⟩
  cases heq
  exact hgoing

theorem call_returns {α : Type} {c : Call} {op : σ → Reply α × σ}
    {B : Except ClientError α → σ → Prop} (hop : ∀ s, A s → Answers op s B) :
    Returns (Going A watchers (c.created?.toList ++ todo) total) (Task.call env c op)
      fun answer => Going (B answer) watchers todo total := by
  refine .bind (Q := fun _ => Going A watchers todo total) (.change fun w hw => ?_) fun _ =>
    .bind (pause_returns h _) fun _ => ?_
  · -- An object counts as created from where its creation is called for.
    refine ⟨hw.cluster, hw.uncancelled, hw.watching, hw.unstopped, ?_⟩
    rw [World.createdObjects_note, List.append_assoc]
    exact hw.objects
  · refine .bind (Q := fun reply w => ∃ answer, reply = .answered answer ∧
      Going (B answer) watchers todo total w) ?_ fun reply => ?_
    · intro w hw
      obtain ⟨answer, s', heq, hB⟩ := hop w.cluster hw.cluster
      have heffect : Task.effect c op w = (.returned (.answered answer),
          { w with cluster := s' }.note (.answered c (Reply.answered answer).problem?)) := by
        rw [Task.effect, World.answer_of_answered c heq]
      refine ⟨fun reply w' h' => ?_, fun hnot => ?_⟩
      · rw [heffect] at h'
        cases h'
        have hw' : Going (B answer) watchers todo total { w with cluster := s' } :=
          ⟨hB, hw.uncancelled, hw.watching, hw.unstopped, hw.objects⟩
        exact ⟨answer, rfl, hw'.note rfl⟩
      · rw [heffect] at hnot
        cases hnot
    · cases reply with
      | answered answer =>
        refine .done ?_
        rintro w ⟨_, heq, hw⟩
        cases heq
        exact hw
      | hangs =>
        rintro w ⟨_, heq, _⟩
        cases heq

theorem quietCall_returns {α : Type} {c : Call} (hc : c.created? = none) {op : σ → Reply α × σ}
    {B : Except ClientError α → σ → Prop} (hop : ∀ s, A s → Answers op s B) :
    Returns (Going A watchers todo total) (Task.call env c op)
      fun answer => Going (B answer) watchers todo total := by
  have hcall : Returns (Going A watchers (c.created?.toList ++ todo) total) (Task.call env c op)
      fun answer => Going (B answer) watchers todo total := call_returns h hop
  rwa [hc] at hcall

theorem race_returns {α : Type} {t : Task σ α} {B : α → σ → Prop}
    (ht : Returns (Going A watchers todo total) t fun a => Going (B a) watchers todo total) :
    Returns (Going A watchers todo total) (Task.race env t)
      fun o w => ∃ a, Going (B a) watchers todo total w ∧ o = some a := by
  have hcheck : Returns (Going A watchers todo total) (Task.isCancelled env)
      fun cancelled w => Going A watchers todo total w ∧ cancelled = false :=
    .bind (pass_returns h .checking) fun _ => .look fun w hw => ⟨hw, hw.uncancelled⟩
  refine .bind hcheck fun cancelled => .known ?_
  rintro rfl
  intro w hw
  have hracing : Going A watchers todo total { w with racing := true } :=
    ⟨hw.cluster, hw.uncancelled, hw.watching, hw.unstopped, hw.objects⟩
  obtain ⟨a, w', heq, hw'⟩ := ht.returns hracing
  have huntil : Task.untilCancelled t w = (.returned (some a), { w' with racing := false }) := by
    unfold Task.untilCancelled
    rw [heq]
  refine ⟨fun o v h' => ?_, fun hnot => ?_⟩
  · rw [if_neg Bool.false_ne_true, huntil] at h'
    cases h'
    exact ⟨a, ⟨hw'.cluster, hw'.uncancelled, hw'.watching, hw'.unstopped, hw'.objects⟩, rfl⟩
  · rw [if_neg Bool.false_ne_true, huntil] at hnot
    cases hnot

/-- A scope that nothing was cancelled in lets its watcher go. -/
theorem closeScope_returns (r : Reaction) :
    Returns (Going A (watchers ++ [⟨r, .waiting⟩]) todo total) (Task.closeScope env r)
      fun _ => Going A watchers todo total := by
  have hfinish : Returns (Going A (watchers ++ [⟨r, .waiting⟩]) todo total)
      (Task.finishWatcher env) fun _ => Going A watchers todo total := by
    intro w hw
    obtain ⟨l, hl, hreturned⟩ := Task.finishWatcher_of_uncancelled env hw.uncancelled hw.watching
    rw [hreturned]
    refine ⟨fun a w' heq => ?_, fun hnot => nomatch hnot⟩
    cases heq
    exact ⟨hw.cluster, hw.uncancelled, hl, hw.unstopped, hw.objects⟩
  refine .closeScope r (fun w hw => ?_) (pause_returns h .closing) hfinish fun _ hw => hw.note rfl
  have hclosing : Going A (watchers ++ [⟨r, .waiting⟩]) todo total { w with closing := true } :=
    ⟨hw.cluster, hw.uncancelled, hw.watching, hw.unstopped, hw.objects⟩
  exact hclosing.note rfl

theorem sleep_returns (r : Runner) (looks : Nat) : Returns (Going A watchers todo total)
    (r.sleep env looks) fun _ => Going A watchers todo total := by
  unfold Runner.sleep
  split
  · exact .done fun _ hw => hw
  · exact pause_returns h .sleeping

end

theorem openScope_returns (r : Reaction) : Returns (Going A watchers todo total)
    (Task.openScope r : Task σ Unit)
      fun _ => Going A (watchers ++ [⟨r, .waiting⟩]) todo total := by
  refine .change fun w hw => ?_
  have hopened : Going A (watchers ++ [⟨r, .waiting⟩]) todo total
      { w with watchers := w.watchers ++ [⟨r, .waiting⟩], closing := false } :=
    ⟨hw.cluster, hw.uncancelled, hw.watching.append_waiting r, hw.unstopped, hw.objects⟩
  exact hopened.note rfl

end

/-! ## The run of a pod -/

section

variable {t : StagedTest} {env : Surroundings σ} {params : Parameters σ} {plan : List StepPod}
  {reached : Stage → σ → Prop} (h : Obliging t env params plan reached)
  (watchers : List (Watcher Reaction)) (todo total : DryRecord)
include h

theorem metByCollection_going (stage : Stage) :
    MetByCollection env (Going (reached stage) watchers todo total) fun _ => False where
  pause := pause_returns (h.calm stage) .filing
  pass := .change fun _ hw => hw.meanwhile (h.calm stage) .checking
  exec := fun pod container words =>
    quietCall_returns (h.calm stage) rfl (B := fun _ => reached stage)
      fun s hs => h.exec stage pod container words s hs
  warned := fun _ _ hw => hw.note rfl
  disk := fun _ _ hw => ⟨hw.cluster, hw.uncancelled, hw.watching, hw.unstopped, hw.objects⟩
  collecting := fun _ _ hw => ⟨hw.cluster, hw.uncancelled, hw.watching, hw.unstopped, hw.objects⟩
  collected := fun c w hc hw => by
    refine ⟨hw.cluster, hw.uncancelled, hw.watching, ?_, hw.objects⟩
    have hstop := hw.unstopped
    rw [hc] at hstop
    exact hstop
  unfinished := fun _ hf => hf
  abandoned := fun _ hf => hf.elim

theorem deliver_returns (stage : Stage) (e : ContainerEvent) :
    Returns (Going (reached stage) watchers todo total) (Observer.deliver env e)
      fun _ => Going (reached stage) watchers todo total := by
  refine .bind ((metByCollection_going h watchers todo total stage).notify e) fun _ =>
    .change fun w hw => ?_
  have hnotice : (w.observer.observe (env.clock w.cluster) e).nested.isStopped = false := by
    have hstop := hw.unstopped
    unfold Observer.observe
    cases hnested : w.observer.nested with
    | collector c =>
      rw [hnested] at hstop
      exact hstop
    | silent | tally _ _ => rfl
  have hw' : Going (reached stage) watchers todo total
      { w with observer := w.observer.observe (env.clock w.cluster) e } :=
    ⟨hw.cluster, hw.uncancelled, hw.watching, hnotice, hw.objects⟩
  exact hw'.note rfl

theorem deliverAll_returns (stage : Stage) (events : List ContainerEvent) :
    Returns (Going (reached stage) watchers todo total) (Runner.deliverAll env events)
      fun delivered w => Going (reached stage) watchers todo total w ∧ delivered = true := by
  induction events with
  | nil => exact .done fun _ hw => ⟨hw, rfl⟩
  | cons e rest ih =>
    refine .bind (race_returns (h.calm stage) (deliver_returns h watchers todo total stage e))
      fun o => .of_exists fun a => .known fun heq => ?_
    subst heq
    exact ih

namespace Runner

variable (r : Runner) (p : StepPod) (rest : List StepPod)

/-- The pod is watched until it has succeeded. The bound on the looks to come carries the induction:
it falls with each look that shows the pod running. -/
theorem watch_returns {looks n : Nat} (hlooks : looks < n) (tracker : Tracker) :
    Returns (Going (reached (.running p rest looks)) watchers todo total) (r.watch env p n tracker)
      fun result w => Going (reached (.idle rest)) watchers todo total w ∧ result = .ok () := by
  induction n generalizing looks tracker with
  | zero => omega
  | succ n ih =>
    refine .bind (race_returns (h.calm _) (quietCall_returns (h.calm _) rfl
      fun s hs => h.watched p rest looks s hs)) fun o => .of_exists fun answer => .known fun heq => ?_
    subst heq
    cases answer with
    | error e => exact fun w hw => hw.cluster.elim
    | ok pod =>
      dsimp only
      cases hphase : PodPhase.ofStatus pod.phaseText with
      | failed => exact fun w hw => hw.cluster.elim
      | succeeded =>
        refine .bind (deliverAll_returns h watchers todo total (.idle rest) _) fun delivered =>
          .known fun heq => ?_
        subst heq
        exact .done fun _ hw => ⟨hw, rfl⟩
      | pending | running | unknown =>
        intro w hw
        obtain ⟨fewer, hfewer, hreached⟩ := hw.cluster
        refine Meets.bind (deliverAll_returns h watchers todo total (.running p rest fewer) _)
          (fun delivered => .known fun heq => ?_) w (hw.of_cluster hreached)
        subst heq
        refine .bind (race_returns (h.calm _) (sleep_returns (h.calm _) r n)) fun o =>
          .of_exists fun _ => .known fun heq => ?_
        subst heq
        exact ih (by omega) _

theorem awaitGone_returns {looks n : Nat} (hlooks : looks < n) :
    Returns (Going (reached (.leaving p rest looks)) watchers todo total) (r.awaitGone env p.name n)
      fun gone w => Going (reached (.vacant p rest)) watchers todo total w ∧ gone = .ok () := by
  induction n generalizing looks with
  | zero => omega
  | succ n ih =>
    refine .bind (quietCall_returns (h.calm _) rfl fun s hs => h.awaited p rest looks s hs)
      fun answer => ?_
    cases answer with
    | error e =>
      refine .done fun w hw => ⟨hw.of_cluster hw.cluster.2, ?_⟩
      rw [if_pos hw.cluster.1]
    | ok _ =>
      intro w hw
      obtain ⟨fewer, hfewer, hreached⟩ := hw.cluster
      exact Meets.bind (sleep_returns (h.calm _) r n) (fun _ => ih (by omega)) w
        (hw.of_cluster hreached)

theorem create_returns :
    Returns (Going (reached (.vacant p rest)) watchers (p.object :: todo) total) (create env p)
      fun created w => Going (fun s => ∃ looks < env.patience, reached (.running p rest looks) s)
        watchers todo total w ∧ created = .ok () := by
  refine .bind (call_returns (h.calm _) (c := .createPod p.pod)
    fun s hs => h.createPod p rest s hs) fun answer => ?_
  cases answer with
  | error e => exact fun w hw => hw.cluster.elim
  | ok _ => exact .done fun _ hw => ⟨hw, rfl⟩

theorem createOrRestart_returns :
    Returns (Going (reached (.idle (p :: rest))) watchers (p.object :: todo) total)
      (r.createOrRestart env p)
      fun created w => Going (fun s => ∃ looks < env.patience, reached (.running p rest looks) s)
        watchers todo total w ∧ created = .ok () := by
  have hcreate := create_returns h watchers todo total p rest
  refine .bind (quietCall_returns (h.calm _) rfl fun s hs => h.deletePod p rest s hs)
    fun answer => ?_
  cases answer with
  | ok _ =>
    intro w hw
    obtain ⟨looks, hlooks, hreached⟩ := hw.cluster
    refine Meets.bind (awaitGone_returns h watchers (p.object :: todo) total r p rest hlooks)
      (fun gone => .known fun heq => ?_) w (hw.of_cluster hreached)
    subst heq
    exact hcreate
  | error e =>
    intro w hw
    obtain ⟨hmissing, hreached⟩ := hw.cluster
    dsimp only
    rw [if_pos hmissing]
    exact hcreate w (hw.of_cluster hreached)

theorem run_returns (hdry : r.dry = false) :
    Returns (Going (reached (.idle (p :: rest))) watchers (p.object :: todo) total) (r.run env p)
      fun result w => Going (reached (.idle rest)) watchers todo total w ∧ result = .ok () := by
  have hcheck : Returns (Going (reached (.idle (p :: rest))) watchers (p.object :: todo) total)
      (Task.isCancelled env) fun cancelled w =>
        Going (reached (.idle (p :: rest))) watchers (p.object :: todo) total w ∧
          cancelled = false :=
    .bind (pass_returns (h.calm _) .checking) fun _ => .look fun w hw => ⟨hw, hw.uncancelled⟩
  unfold run
  simp only [hdry, if_false, Bool.false_eq_true]
  refine .bind hcheck fun cancelled => .known fun heq => ?_
  subst heq
  refine .bind (createOrRestart_returns h watchers todo total r p rest) fun created =>
    .known fun heq => ?_
  subst heq
  refine .bind (openScope_returns _) fun _ w hw => ?_
  obtain ⟨looks, hlooks, hreached⟩ := hw.cluster
  refine Meets.bind (watch_returns h _ todo total r p rest hlooks _)
    (fun result => .known fun heq => ?_) w (hw.of_cluster hreached)
  subst heq
  exact .bind (closeScope_returns (h.calm _) _) fun _ => .bind (.done fun _ hw => hw) fun _ =>
    .done fun _ hw => ⟨hw, rfl⟩

theorem attempt_returns (hdry : r.dry = false) (text : String) :
    Returns (Going (reached (.idle (p :: rest))) watchers (p.object :: todo) total)
      (r.attempt env text p)
      fun x w => Going (reached (.idle rest)) watchers todo total w ∧ x.1 = .ok () := by
  have hfresh : (r.observerFor p).nested.isStopped = false := by
    unfold observerFor
    split <;> rfl
  refine .bind (Q := fun _ => Going (reached (.idle (p :: rest))) watchers (p.object :: todo) total)
    (.change fun w hw => ?_) fun _ => .bind (run_returns h watchers todo total r p rest hdry)
      fun result => .known fun heq =>
        .bind (Q := fun _ => Going (reached (.idle rest)) watchers todo total)
          (.change fun _ hw => hw.note rfl) fun _ => .bind (.look fun _ hw => hw) fun cases =>
            .done fun _ hw => ⟨hw, heq⟩
  have hw' : Going (reached (.idle (p :: rest))) watchers (p.object :: todo) total
      { w with observer := r.observerFor p } :=
    ⟨hw.cluster, hw.uncancelled, hw.watching, hfresh, hw.objects⟩
  exact hw'.note rfl

theorem runPods_returns (hdry : r.dry = false) (policy : Policy) (description : String)
    (pods : List StepPod) :
    Returns (Going (reached (.idle (pods ++ rest))) watchers ((pods ++ rest).map StepPod.object) total)
      (r.runPods env policy description pods)
      fun x w => Going (reached (.idle rest)) watchers (rest.map StepPod.object) total w ∧
        x.1 = [] := by
  unfold runPods
  simp only [hdry, if_false, Bool.false_eq_true]
  refine .bind (openScope_returns _) fun _ => .bind (r.runAll_returns (I := fun rest =>
    Going (reached (.idle rest)) (watchers ++ [⟨.deletePods (testSelector r.test), .waiting⟩])
      (rest.map StepPod.object) total) (fun p rest text => ?_) policy description pods rest)
    fun x => .known fun heq => .bind (closeScope_returns (h.calm _) _) fun _ =>
      .done fun _ hw => ⟨hw, heq⟩
  exact attempt_returns h _ _ total r p rest hdry text

end Runner

end

/-! ## The run of a test -/

namespace StagedTest

section

variable {t : StagedTest} {env : Surroundings σ} {params : Parameters σ} {plan : List StepPod}
  {reached : Stage → σ → Prop} (h : Obliging t env params plan reached)
  (watchers : List (Watcher Reaction)) (todo total : DryRecord)
include h

theorem createResultsSecret_returns (hdry : t.dry = false) :
    Returns (Going (reached .found) watchers (t.secretObject :: todo) total)
      (t.createResultsSecret env)
      fun x w => Going (reached (.idle plan)) watchers todo total w ∧ x = .ok () := by
  have hcreate : Returns (Going (reached .cleared) watchers (t.secretObject :: todo) total)
      (createResultsSecret.create t env)
      fun x w => Going (reached (.idle plan)) watchers todo total w ∧ x = .ok () := by
    refine .bind (call_returns (h.calm _) (c := .createSecret t.resultsSecret) h.createSecret)
      fun answer => ?_
    cases answer with
    | error e => exact fun w hw => hw.cluster.elim
    | ok _ => exact .done fun _ hw => ⟨hw, rfl⟩
  unfold createResultsSecret
  simp only [hdry, if_false, Bool.false_eq_true]
  refine .bind (quietCall_returns (h.calm _) rfl h.deleteSecret) fun answer => ?_
  cases answer with
  | ok _ => exact hcreate
  | error e =>
    intro w hw
    obtain ⟨hmissing, hreached⟩ := hw.cluster
    dsimp only
    rw [if_pos hmissing]
    exact hcreate w (hw.of_cluster hreached)

end

variable {t : StagedTest} {env : Surroundings σ} {params : Parameters σ}
  {reached : Stage → σ → Prop} {w : World σ}

/-- On an obliging cluster a run creates the objects of its configuration. -/
theorem run_creates
    (h : Obliging t env params (t.planOf (t.setting (t.answers env params w))) reached)
    (hdry : t.dry = false) (hbegun : reached .begun w.cluster) (hwatchers : w.watchers = [])
    (htoken : w.token.isCancelled = false) (hunstopped : w.observer.nested.isStopped = false) :
    ∃ x w', t.run env params w = (.returned x, w') ∧
      w'.createdObjects = w.createdObjects ++ t.objectsOf (t.setting (t.answers env params w)) ∧
      x.1 = t.outcomeOf (t.setting (t.answers env params w)) := by
  generalize hsetting : t.setting (t.answers env params w) = setting at h ⊢
  have hw : Going (reached .begun) [] (t.objectsOf setting) (w.createdObjects ++ t.objectsOf setting)
      w := ⟨hbegun, htoken, by rw [hwatchers]; exact .refl [], hunstopped, rfl⟩
  have hlook : t.definition.profile ≠ none → Returns
      (Going (reached .begun) [] (t.objectsOf setting) (w.createdObjects ++ t.objectsOf setting))
      (Task.call env (.getSecret (profileSecretName t.name))
        (env.secrets.get (profileSecretName t.name)))
      fun answer v => Going (reached .found) [] (t.objectsOf setting)
        (w.createdObjects ++ t.objectsOf setting) v ∧ ∃ secret, answer = .ok secret := by
    intro hset
    refine (quietCall_returns (h.calm .begun) rfl (h.getSecret hset)).weaken (fun _ hv => hv)
      (fun answer v hv => ?_) fun _ hf => hf
    cases answer with
    | error e => exact hv.cluster.elim
    | ok secret => exact ⟨hv, secret, rfl⟩
  have hfinds : t.Finds env w := by
    intro hset
    obtain ⟨answer, w₁, hcalled, -, secret, rfl⟩ := (hlook hset).returns hw
    exact ⟨secret, w₁, hcalled⟩
  have hprofile : Returns (fun v => v = w) (t.resolveProfile env params) fun x v =>
      Going (reached .found) [] (t.objectsOf setting) (w.createdObjects ++ t.objectsOf setting) v ∧
        x = t.setting (t.answers env params w) := by
    refine t.resolveProfile_returns hfinds (fun hnone => hw.of_cluster (h.unset hnone _ hbegun))
      (fun hset answer w₁ hcalled => ((hlook hset w hw).1 answer w₁ hcalled).1) fun name v hv => ?_
    have hv' : Going (reached .found) [] (t.objectsOf setting)
        (w.createdObjects ++ t.objectsOf setting)
        { v with cluster := (params.get name v.cluster).2 } :=
      ⟨h.valued name _ hv.cluster, hv.uncancelled, hv.watching, hv.unstopped, hv.objects⟩
    exact hv'.note rfl
  rw [hsetting] at hprofile
  have hrun := t.run_returns (I := fun rest => Going (reached (.idle rest)) []
      (rest.map StepPod.object) (w.createdObjects ++ t.objectsOf setting))
    (F := fun v => v.createdObjects = w.createdObjects ++ t.objectsOf setting)
    (fun policy description pods rest =>
      t.runner.runPods_returns h [] _ rest hdry policy description pods)
    hprofile
    (fun e he v hv => by
      have hobjects := hv.objects
      rw [he] at hobjects ⊢
      exact (List.append_nil _).symm.trans hobjects)
    (fun profile hok => by
      subst hok
      exact createResultsSecret_returns h [] _ _ hdry)
    fun v hv => (List.append_nil _).symm.trans hv.objects
  obtain ⟨x, w', heq, hobjects, hresult⟩ := hrun.returns rfl
  exact ⟨x, w', heq, hobjects, hresult⟩

end StagedTest

end StagedTests
