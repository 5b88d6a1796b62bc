import StagedTests.Proofs.Cluster.Selector
import StagedTests.Proofs.Cluster.Store
import StagedTests.Proofs.Run.Cancellation

/-!
# The pods of other tests

Tests may share a namespace. A test acts on the pods that have the names of its own, a test's name
and a step's name with a dash between them, and a cancelled test deletes what its selector matches.
Neither keeps the pods of other tests apart in all cases: `a` and `b-c` make the same name as `a-b`
and `c`, and a name with a comma makes a selector that names another test. All other pods are left
as they are.
-/

namespace StagedTests

variable {σ : Type}

open StagedTests.Task (Keeps Leads Meets)

namespace Call

/-- The call is not for the pod of a name, if it is for one. -/
def Elsewhere (name : String) : Call → Prop
  | .createPod pod => pod.name ≠ name
  | .getPod other | .deletePod other => other ≠ name
  | _ => True

/-- The call deletes a pod, by its name only if that is one of the test's own. -/
def Deletes (own : Prop) (name : String) (pod : Pod) : Call → Prop
  | .deletePod other => own ∧ other = name
  | .deletePods selector => Selector.selects selector pod = true
  | _ => False

end Call

/-- The pod is as it was, unless a call to delete it was made. -/
def Spared (own : Prop) (name : String) (stored : StoredPod) (found : Option StoredPod)
    (log : List Entry) : Prop :=
  found = some stored ∨ ∃ c : Call, c.Deletes own name stored.pod ∧ .called c ∈ log

section

variable {store : σ → PodStore} {w₀ w w' : World σ} {own : Prop} {name : String}
  {stored : StoredPod}

theorem Spared.grows (found : Option StoredPod) :
    Grows (fun _ => True) (Spared own name stored found) := by
  rintro log e - (hfound | ⟨c, hdeletes, hcalled⟩)
  · exact .inl hfound
  · exact .inr ⟨c, hdeletes, List.mem_append_left _ hcalled⟩

def SparedSince (store : σ → PodStore) (w₀ : World σ) (own : Prop) (name : String)
    (stored : StoredPod) (w : World σ) : Prop :=
  w₀.Along (Spared own name stored ((store w.cluster).pods.get? name)) w

def DeletedSince (w₀ : World σ) (own : Prop) (name : String) (pod : Pod) (w : World σ) : Prop :=
  w₀.Along (fun log => ∃ c : Call, c.Deletes own name pod ∧ .called c ∈ log) w

theorem deletes_grows (own : Prop) (name : String) (pod : Pod) : Grows (fun _ => True)
    fun log => ∃ c : Call, c.Deletes own name pod ∧ .called c ∈ log :=
  fun _ _ _ ⟨c, hdeletes, hcalled⟩ => ⟨c, hdeletes, List.mem_append_left _ hcalled⟩

theorem SparedSince.called (h : SparedSince store w₀ own name stored w) {c : Call}
    (hc : c.Deletes own name stored.pod) :
    DeletedSince w₀ own name stored.pod (w.note (.called c)) :=
  World.Along.add h (fun _ => rfl) fun _ _ _ => ⟨c, hc, List.mem_append_right _ List.mem_cons_self⟩

theorem DeletedSince.spared (h : DeletedSince w₀ own name stored.pod w) :
    SparedSince store w₀ own name stored w := h.mono fun _ _ hlog => .inr hlog

namespace SparedSince

theorem of_kept (h : SparedSince store w₀ own name stored w) (hjournal : w'.journal = w.journal)
    (htoken : w'.token = w.token)
    (hkept : (store w'.cluster).pods.get? name = (store w.cluster).pods.get? name) :
    SparedSince store w₀ own name stored w' := by
  unfold SparedSince at h ⊢
  rw [hkept]
  exact h.of_eq hjournal htoken

theorem note (h : SparedSince store w₀ own name stored w) {e : Entry}
    (he : ∀ t, e.signal t = t) : SparedSince store w₀ own name stored (w.note e) :=
  World.Along.note (E := fun _ => True) (Spared.grows _) trivial he h

theorem cancel (h : SparedSince store w₀ own name stored w) (reason : String) :
    SparedSince store w₀ own name stored (w.cancel reason) := by
  have hcluster : (w.cancel reason).cluster = w.cluster := by
    unfold World.cancel
    split <;> rfl
  unfold SparedSince at h ⊢
  rw [hcluster]
  exact h.cancel (Spared.grows _) reason trivial

theorem answer (h : SparedSince store w₀ own name stored w) {α : Type} {c : Call}
    {op : σ → Reply α × σ}
    (hop : (store w.cluster).pods.get? name = some stored →
      (store (op w.cluster).2).pods.get? name = some stored) :
    SparedSince store w₀ own name stored (w.answer c op).2 := by
  have hanswered : w₀.Along (Spared own name stored ((store w.cluster).pods.get? name))
      (w.answer c op).2 :=
    World.Along.answer (E := fun _ => True) (Spared.grows _) (fun _ => trivial) op h
  unfold SparedSince
  rw [World.cluster_answer]
  exact hanswered.mono fun log _ hlog => hlog.imp_left hop

variable {env : Surroundings σ} {params : Parameters σ} (hm : StoresPods env params store)
include hm

/-- A deletion by a selector counts as one of the pod if it matches the pod, else it leaves it. -/
theorem react (h : SparedSince store w₀ own name stored w) (r : Reaction) :
    SparedSince store w₀ own name stored (env.react w r).1 := by
  cases r with
  | cancelObserver => exact h.of_kept rfl rfl rfl
  | deletePods selector =>
    refine env.react_deletePods w selector ?_ fun _ _ hv => hv.note fun _ => rfl
    cases hselects : Selector.selects selector stored.pod with
    | true =>
      have hdeleted : DeletedSince w₀ own name stored.pod (w.note (.called (.deletePods selector))) :=
        h.called hselects
      exact DeletedSince.spared
        (hdeleted.answer (deletes_grows _ _ _) (fun _ => trivial) (env.pods.deleteCollection selector))
    | false =>
      have hcalled : SparedSince store w₀ own name stored (w.note (.called (.deletePods selector))) :=
        h.note fun _ => rfl
      refine hcalled.answer fun hfound => ?_
      rw [hm.deleteCollection]
      exact PodStore.deleteCollection_get? _ hfound hselects

end SparedSince

end

section

variable {env : Surroundings σ} {params : Parameters σ} {store : σ → PodStore}
  (hm : StoresPods env params store) (w₀ : World σ) (own : Prop) (name : String)
  (stored : StoredPod)
include hm

theorem keptAtPauses_spared : KeptAtPauses env (SparedSince store w₀ own name stored) where
  meanwhile := fun m w hw => hw.of_kept rfl rfl (by rw [hm.meanwhile])
  happen := fun x w hw => by
    cases x with
    | cancel reason => exact hw.cancel reason
    | cancelObserver => exact hw.of_kept rfl rfl rfl
    | turn i =>
      exact env.turn_keeps i hw (hw.react hm) fun _ _ hv => hv.of_kept rfl rfl rfl

theorem keptByScopes_spared : KeptByScopes env (SparedSince store w₀ own name stored) where
  toKeptAtPauses := keptAtPauses_spared hm w₀ own name stored
  opened := fun r w hw => by
    have hw' : SparedSince store w₀ own name stored
        { w with watchers := w.watchers ++ [⟨r, .waiting⟩], closing := false } :=
      hw.of_kept rfl rfl rfl
    exact hw'.note fun _ => rfl
  closing := fun r w hw => by
    have hw' : SparedSince store w₀ own name stored { w with closing := true } :=
      hw.of_kept rfl rfl rfl
    exact hw'.note fun _ => rfl
  closed := fun _ _ hw => hw.note fun _ => rfl
  dropped := fun _ hw => hw.of_kept rfl rfl rfl

theorem keptByRuns_spared :
    KeptByRuns env (Call.Elsewhere name) (SparedSince store w₀ own name stored) :=
  { keptByScopes_spared hm w₀ own name stored with
    commands := fun _ _ _ => trivial
    called := fun _ _ _ hw => hw.note fun _ => rfl
    warned := fun _ _ hw => hw.note fun _ => rfl
    getPod := fun other w hother hw => hw.answer fun hfound => by
      rw [hm.get, PodStore.get_get?_of_ne _ hother, hfound]
    deletePod := fun other w hother hw => hw.answer fun hfound => by
      rw [hm.delete, PodStore.delete_get?_of_ne _ hother, hfound]
    exec := fun pod container words w hw => hw.answer fun hfound => by
      rw [hm.exec, PodStore.exec_pods, hfound]
    createPod := fun pod w hpod hw => hw.answer fun hfound => by
      rw [hm.create, PodStore.create_get?_of_ne _ hpod, hfound]
    disk := fun _ _ hw => hw.of_kept rfl rfl rfl
    racing := fun _ _ hw => hw.of_kept rfl rfl rfl
    collecting := fun _ _ hw => hw.of_kept rfl rfl rfl
    nested := fun _ _ hw => hw.of_kept rfl rfl rfl
    delivered := fun e w hw => by
      have hw' : SparedSince store w₀ own name stored
          { w with observer := w.observer.observe (env.clock w.cluster) e } :=
        hw.of_kept rfl rfl rfl
      exact hw'.note fun _ => rfl
    recorded := fun _ _ _ _ hw => hw.note fun _ => rfl }

theorem keptByPreparation_spared :
    KeptByPreparation env params (SparedSince store w₀ own name stored) where
  toKeptAtPauses := keptAtPauses_spared hm w₀ own name stored
  called := fun _ _ _ hw => hw.note fun _ => rfl
  getSecret := fun _ _ hw => hw.answer fun hfound => by rw [hm.getSecret, hfound]
  createSecret := fun _ _ hw => hw.answer fun hfound => by rw [hm.createSecret, hfound]
  deleteSecret := fun _ _ hw => hw.answer fun hfound => by rw [hm.deleteSecret, hfound]
  asked := fun _ _ hw => hw.note fun _ => rfl
  valued := fun _ _ hw => hw.of_kept rfl rfl (by rw [hm.valued])
  recorded := fun _ _ _ _ hw => hw.note fun _ => rfl

namespace Runner

variable (r : Runner) (p : StepPod)

omit hm in
/-- A run that gets to its pod's place deletes the pod that is there first. -/
theorem createOrRestart_deletes (hown : own) :
    Meets (SparedSince store w₀ own p.name stored) (r.createOrRestart env p)
      (fun _ => DeletedSince w₀ own p.name stored.pod) (DeletedSince w₀ own p.name stored.pod) := by
  have hkept : KeptByRuns env Call.Any (DeletedSince w₀ own p.name stored.pod) :=
    keptByRuns_along_any env w₀ (deletes_grows own p.name stored.pod)
  have hremove : Meets (SparedSince store w₀ own p.name stored)
      (Task.call env (.deletePod p.name) (env.pods.delete p.name))
      (fun _ => DeletedSince w₀ own p.name stored.pod)
      (DeletedSince w₀ own p.name stored.pod) :=
    hkept.call_meets (fun w hw => hw.called ⟨hown, rfl⟩) fun w hw => hkept.deletePod _ w trivial hw
  refine .bind hremove fun answer => .ofKeeps ?_
  cases answer with
  | ok _ =>
    refine .bind (hkept.awaitGone r trivial _) fun gone => ?_
    cases gone with
    | ok _ => exact hkept.create trivial
    | error e => exact .done _
  | error e =>
    dsimp only
    split
    · exact hkept.create trivial
    · exact .done _

/-- A run leaves a pod of its own name as it is only where it makes no calls. -/
theorem run_spares_own (hown : own) :
    Keeps (SparedSince store w₀ own p.name stored) (r.run env p) := by
  have hspared : ∀ w, DeletedSince w₀ own p.name stored.pod w →
      SparedSince store w₀ own p.name stored w := fun w hw => hw.spared
  have hkept : KeptByRuns env Call.Any (DeletedSince w₀ own p.name stored.pod) :=
    keptByRuns_along_any env w₀ (deletes_grows own p.name stored.pod)
  refine Meets.keeps ?_
  unfold run
  split
  · exact .bind (.ofKeeps ((keptByRuns_spared hm w₀ own p.name stored).recorded _ _ _)) fun _ =>
      .done fun _ hw => hw
  · refine .bind (.ofKeeps (keptAtPauses_spared hm w₀ own p.name stored).isCancelled)
      fun cancelled => ?_
    cases cancelled with
    | true => exact .bind (.look fun _ hw => hw) fun _ => .done fun _ hw => hw
    | false =>
      -- The first call is the deletion of the pod, and all that follows keeps that it was made.
      refine Meets.weaken ?_ (fun _ hw => hw) (fun _ => hspared) hspared
      refine .bind (createOrRestart_deletes w₀ own stored r p hown) fun created => .ofKeeps ?_
      cases created with
      | error e => exact .done _
      | ok _ =>
        exact .bind (hkept.opened _) fun _ => .bind (hkept.watch r trivial _ _) fun result =>
          .bind (hkept.closeScope _) fun _ => .bind (hkept.report result) fun _ => .done _

theorem attempt_spares (hown : p.name = name → own) (text : String) :
    Keeps (SparedSince store w₀ own name stored) (r.attempt env text p) := by
  have hrun : Keeps (SparedSince store w₀ own name stored) (r.run env p) := by
    by_cases hname : p.name = name
    · subst hname
      exact run_spares_own hm w₀ own stored r p (hown rfl)
    · exact (keptByRuns_spared hm w₀ own name stored).run r ⟨hname, hname, hname⟩
  refine r.attempt_keeps_of_run hrun (fun w hw => ?_) (fun _ _ hw => hw.note fun _ => rfl) text
  have hw' : SparedSince store w₀ own name stored { w with observer := r.observerFor p } :=
    hw.of_kept rfl rfl rfl
  exact hw'.note fun _ => rfl

end Runner

/-- Whatever comes of a test, it leaves a pod as it is or makes a call that deletes it. -/
theorem StagedTest.run_spares (t : StagedTest)
    (hown : ∀ step ∈ t.definition.allSteps, s!"{t.name}-{step.name}" = name → own) :
    Keeps (SparedSince store w₀ own name stored) (t.run env params) := by
  refine t.run_keeps ((keptByPreparation_spared hm w₀ own name stored).prepare t) fun profile => ?_
  refine t.runPhases_keeps (keptByScopes_spared hm w₀ own name stored) profile ?_
  intro step hstep p hmade text
  refine t.runner.attempt_spares hm w₀ own name stored p (fun hname => hown step hstep ?_) text
  have hnames := (t.synthesizer profile).generatePod_names step
  rw [hmade] at hnames
  exact hnames.2.symm.trans hname

end

namespace Rehearsal

def podOf (test name : String) (labels : Table String) : Pod where
  metadata := { name := some name, labels := some (labels.insert testLabel test) }

def oneStep (test step : String) : StagedTest where
  definition := { Definition.ofName test with test := [.ofCommands step "src" "true"] }
  config := quickConfig
  job := job
  dry := false

/-- A cluster in memory with a pod in it, and someone who cancels the run once another pod was
created. -/
def sharedCluster (pod : Pod) (canceller : Option (String × String)) : World Rehearsed :=
  .start
    { pods := PodStore.withExisting { now := now } pod
      secrets := {}
      canceller := canceller } .fresh .empty

end Rehearsal

namespace StagedTest

variable {env : Surroundings σ} {params : Parameters σ} {store : σ → PodStore}

/-- A pod that carries the label of another test is as it was behind a run, unless it had the name
of one of the run's own pods and was deleted in its place, or the run was cancelled and the name of
its test is one that its selector cannot express. -/
theorem run_neighbours (hm : StoresPods env params store) (t : StagedTest) (hdry : t.dry = false)
    {w w' : World σ} {result : Except TestError Unit × StagedTest} (hw : w.watchers = [])
    (h : t.run env params w = (.returned result, w')) {name other : String} {stored : StoredPod}
    (hstored : (store w.cluster).pods.get? name = some stored)
    (hlabel : (stored.pod.metadata.labels.getD ∅).get? testLabel = some other)
    (hother : other ≠ t.name) :
    ∃ log, w'.journal = w.journal ++ log ∧
      ((store w'.cluster).pods.get? name = some stored ∨
        (∃ step ∈ t.definition.allSteps, s!"{t.name}-{step.name}" = name) ∧
          .called (.deletePod name) ∈ log ∨
        w'.token.isCancelled = true ∧ ¬ Selector.Expressible t.name ∧
          Selector.selects (testSelector t.name) stored.pod = true ∧
          .called (.deletePods (testSelector t.name)) ∈ log) := by
  have hspared : SparedSince store w (∃ step ∈ t.definition.allSteps, s!"{t.name}-{step.name}" = name)
      name stored w' :=
    (t.run_spares hm w _ name stored fun step hstep hname => ⟨step, hstep, hname⟩).returned
      (.start w (.inl hstored)) h
  have hswept := t.run_swept env params hdry w.selectors.length w result w' (.start _ hw) h
  obtain ⟨log, hjournal, -, hpod⟩ := hspared
  refine ⟨log, hjournal, ?_⟩
  rcases hpod with hfound | ⟨c, hdeletes, hcalled⟩
  · exact .inl hfound
  · cases c with
    | deletePod deleted =>
      obtain ⟨hown, rfl⟩ := hdeletes
      exact .inr (.inl ⟨hown, hcalled⟩)
    | deletePods selector =>
      have hselector : selector ∈ w'.selectors.drop w.selectors.length := by
        have hselectors : w'.selectors = w.selectors ++ selectorsIn log := by
          rw [World.selectors, hjournal]
          exact selectorsIn_append _ _
        rw [hselectors, List.drop_left]
        exact List.mem_filterMap.mpr ⟨_, hcalled, rfl⟩
      obtain ⟨rfl, hcancelled⟩ := hswept.2 selector hselector
      refine .inr (.inr ⟨hcancelled, fun hexpressible => hother ?_, hdeletes, hcalled⟩)
      have hsame := (Selector.selects_testSelector hexpressible stored.pod).mp hdeletes
      rw [hlabel] at hsame
      exact Option.some.inj hsame
    | createPod _ | getPod _ | exec _ _ _ | getSecret _ | createSecret _ | deleteSecret _ =>
      exact absurd hdeletes not_false

open Rehearsal (podOf oneStep sharedCluster noParameters)

theorem run_neighbours_setup : ∃ result w',
    (oneStep "e2e" "setup").run Rehearsed.surroundings noParameters
        (sharedCluster (podOf "other" "other-setup" ∅) (some ("e2e-setup", "stop"))) =
          (.returned result, w') ∧
      w'.cluster.pods.pods.get? "other-setup" = some ⟨podOf "other" "other-setup" ∅, 0⟩ := by
  have hreturned : ((oneStep "e2e" "setup").run Rehearsed.surroundings noParameters
      (sharedCluster (podOf "other" "other-setup" ∅)
        (some ("e2e-setup", "stop")))).1.isReturned = true := by
    decide +kernel
  obtain ⟨result, w', h⟩ := (Task.isReturned_iff _ _).mp hreturned
  have hstored : (sharedCluster (podOf "other" "other-setup" ∅)
      (some ("e2e-setup", "stop"))).cluster.pods.pods.get? "other-setup" =
        some ⟨podOf "other" "other-setup" ∅, 0⟩ := rfl
  have hlabel : ((podOf "other" "other-setup" ∅).metadata.labels.getD ∅).get? testLabel =
      some "other" := by decide
  obtain ⟨log, -, hpod⟩ := run_neighbours (Rehearsed.storesPods fun _ _ => rfl)
    (oneStep "e2e" "setup") rfl rfl h hstored hlabel (by decide)
  refine ⟨result, w', h, ?_⟩
  rcases hpod with hpod | ⟨hown, -⟩ | ⟨-, hname, -⟩
  · exact hpod
  · exact absurd hown (by decide)
  · exact absurd (by decide) hname

/-- It is not so that a run leaves all pods with the label of another test as they are: it deletes
one that has the name of a pod of its own, and its selector may match one that has not. -/
theorem not_forall_run_neighbours :
    (¬ ∀ (t : StagedTest) (w w' : World Rehearsed) (result : Except TestError Unit × StagedTest)
      (name other : String) (stored : StoredPod), t.dry = false → w.watchers = [] →
      t.run Rehearsed.surroundings noParameters w = (.returned result, w') →
      w.cluster.pods.pods.get? name = some stored →
      (stored.pod.metadata.labels.getD ∅).get? testLabel = some other → other ≠ t.name →
      w'.cluster.pods.pods.get? name = some stored) ∧
    ¬ ∀ (t : StagedTest) (w w' : World Rehearsed) (result : Except TestError Unit × StagedTest)
      (name other : String) (stored : StoredPod), t.dry = false → w.watchers = [] →
      t.run Rehearsed.surroundings noParameters w = (.returned result, w') →
      w.cluster.pods.pods.get? name = some stored →
      (stored.pod.metadata.labels.getD ∅).get? testLabel = some other → other ≠ t.name →
      (∀ step ∈ t.definition.allSteps, s!"{t.name}-{step.name}" ≠ name) →
      w'.cluster.pods.pods.get? name = some stored := by
  constructor
  · intro hall
    have hreturned : ((oneStep "e2e" "a-b").run Rehearsed.surroundings noParameters
        (sharedCluster (podOf "e2e-a" "e2e-a-b" ∅) none)).1.isReturned = true := by decide +kernel
    obtain ⟨result, w', h⟩ := (Task.isReturned_iff _ _).mp hreturned
    have hpod := hall (oneStep "e2e" "a-b") _ w' result "e2e-a-b" "e2e-a"
      ⟨podOf "e2e-a" "e2e-a-b" ∅, 0⟩ rfl rfl h rfl (by decide) (by decide)
    -- The pod that now has the name is one of the run: it carries the label of its test.
    have hreplaced : ((w'.cluster.pods.pods.get? "e2e-a-b").bind fun found =>
        (found.pod.metadata.labels.getD ∅).get? testLabel) = some "e2e" := by
      rw [← show (_, w').2 = w' from rfl, ← h]
      decide +kernel
    rw [hpod] at hreplaced
    exact absurd hreplaced (by decide)
  · intro hall
    have hreturned : ((oneStep "e2e,x=y" "a").run Rehearsed.surroundings noParameters
        (sharedCluster (podOf "e2e" "e2e-b" (Table.ofList [("x", "y")]))
          (some ("e2e,x=y-a", "stop")))).1.isReturned = true := by
      decide +kernel
    obtain ⟨result, w', h⟩ := (Task.isReturned_iff _ _).mp hreturned
    have hpod := hall (oneStep "e2e,x=y" "a") _ w' result "e2e-b" "e2e"
      ⟨podOf "e2e" "e2e-b" (Table.ofList [("x", "y")]), 0⟩ rfl rfl h rfl (by decide) (by decide)
      (by decide)
    -- The selector of `e2e,x=y` asks for the label `e2e` and for `x=y`.
    have hgone : (w'.cluster.pods.pods.get? "e2e-b").isSome = false := by
      rw [← show (_, w').2 = w' from rfl, ← h]
      decide +kernel
    rw [hpod] at hgone
    cases hgone

end StagedTest

end StagedTests
