import StagedTests.Proofs.Run.Success
import StagedTests.Proofs.Run.Test

/-!
# Dry runs

A dry run records what a run creates that all goes well for, in the same order, and comes to the same
result. On the cluster it only looks for the secret of the profile, whatever becomes of it.
-/

namespace StagedTests

variable {σ τ : Type}

open StagedTests.Task (Keeps Meets Returns)

/-! ## What a dry run records -/

def Entry.recorded? : Entry → Option RecordedObject
  | .recorded kind name object => some ⟨kind, name, object⟩
  | _ => none

namespace World

theorem recordedObjects_append {w w' : World σ} {log : List Entry}
    (h : w'.journal = w.journal ++ log) :
    w'.recordedObjects = w.recordedObjects ++ log.filterMap Entry.recorded? := by
  have hall : ∀ v : World σ, v.recordedObjects = v.journal.filterMap Entry.recorded? := by
    intro v
    refine congrArg (fun f => List.filterMap f v.journal) (funext fun e => ?_)
    cases e <;> rfl
  rw [hall, hall, h, List.filterMap_append]

theorem recordedObjects_note (w : World σ) (e : Entry) :
    (w.note e).recordedObjects = w.recordedObjects ++ e.recorded?.toList := by
  have hone : [e].filterMap Entry.recorded? = e.recorded?.toList := by
    cases h : e.recorded? <;> simp [h]
  have hnoted : (w.note e).journal = w.journal ++ [e] := rfl
  rw [recordedObjects_append hnoted, hone]

end World

theorem recordedObjects_call {α : Type} (env : Surroundings σ) (c : Call) (op : σ → Reply α × σ)
    (w : World σ) : (Task.call env c op w).2.recordedObjects = w.recordedObjects := by
  have hS : Grows (fun e => e.recorded? = none) fun log => log.filterMap Entry.recorded? = [] := by
    intro log e he hlog
    rw [List.filterMap_append, hlog, List.filterMap_cons_none he]
    rfl
  have haside : ∀ e : Entry, e.isAside = true → e.recorded? = none := by
    intro e he
    cases e <;> first | rfl | cases he
  have hkept : Keeps (w.Along fun log => log.filterMap Entry.recorded? = []) (Task.call env c op) :=
    (keptAtPauses_along env w hS haside).call (fun _ hv => hv.note hS rfl fun _ => rfl)
      fun _ hv => hv.answer hS (fun _ => rfl) op
  obtain ⟨log, hjournal, -, hlog⟩ := hkept w (.start w rfl)
  rw [World.recordedObjects_append hjournal, hlog, List.append_nil]

def Recording (todo total : DryRecord) (w : World σ) : Prop := w.recordedObjects ++ todo = total

section

variable {todo total : DryRecord}

theorem Recording.note {w : World σ} (h : Recording todo total w) {e : Entry}
    (he : e.recorded? = none) : Recording todo total (w.note e) := by
  have hnote := w.recordedObjects_note e
  rw [he] at hnote
  rw [Recording, hnote]
  exact (congrArg (· ++ todo) (List.append_nil _)).trans h

theorem record_returns (kind name : String) (object : Json) :
    Returns (Recording (⟨kind, name, object⟩ :: todo) total)
      (Task.note (.recorded kind name object) : Task σ Unit) fun _ => Recording todo total := by
  refine .change fun w hw => ?_
  rw [Recording, World.recordedObjects_note, List.append_assoc]
  exact hw

variable {env : Surroundings σ}

theorem Runner.attempt_records (r : Runner) (hdry : r.dry = true) (p : StepPod) (text : String) :
    Returns (Recording (p.object :: todo) total) (r.attempt env text p)
      fun x w => Recording todo total w ∧ x.1 = .ok () := by
  have hrun : Returns (Recording (p.object :: todo) total) (r.run env p)
      fun result w => Recording todo total w ∧ result = .ok () := by
    unfold Runner.run
    rw [if_pos hdry]
    exact .bind (record_returns "Pod" p.name p.pod.toJson.sorted) fun _ =>
      .done fun _ hw => ⟨hw, rfl⟩
  refine .bind (Q := fun _ => Recording (p.object :: todo) total) (.change fun w hw => ?_) fun _ =>
    .bind hrun fun result => .known fun hok =>
      .bind (Q := fun _ => Recording todo total) (.change fun _ hw => hw.note rfl) fun _ =>
        .bind (.look fun _ hw => hw) fun cases => .done fun _ hw => ⟨hw, hok⟩
  have hw' : Recording (p.object :: todo) total { w with observer := r.observerFor p } := hw
  exact hw'.note rfl

theorem Runner.runPods_records (r : Runner) (hdry : r.dry = true) (policy : Policy)
    (description : String) (pods rest : List StepPod) :
    Returns (Recording ((pods ++ rest).map StepPod.object) total)
      (r.runPods env policy description pods)
      fun x w => Recording (rest.map StepPod.object) total w ∧ x.1 = [] := by
  unfold Runner.runPods
  rw [if_pos hdry]
  exact r.runAll_returns (I := fun rest => Recording (rest.map StepPod.object) total)
    (fun p rest text => r.attempt_records hdry p text) policy description pods rest

namespace StagedTest

variable {t : StagedTest} {w : World σ}

/-- A dry run that finds the secret of the profile records the objects of its configuration. -/
theorem run_records (params : Parameters σ) (hdry : t.dry = true) (hfinds : t.Finds env w) :
    ∃ x w', t.run env params w = (.returned x, w') ∧
      w'.recordedObjects =
        w.recordedObjects ++ t.objectsOf (t.setting (t.answers env params w)) ∧
      x.1 = t.outcomeOf (t.setting (t.answers env params w)) := by
  generalize hsetting : t.setting (t.answers env params w) = setting
  have hprofile : Returns (fun v => v = w) (t.resolveProfile env params) fun x v =>
      Recording (t.objectsOf setting) (w.recordedObjects ++ t.objectsOf setting) v ∧
        x = t.setting (t.answers env params w) := by
    refine t.resolveProfile_returns hfinds (fun _ => rfl) (fun _ answer w₁ hcalled => ?_)
      fun name v hv => hv.note rfl
    have hsame := recordedObjects_call env (.getSecret (profileSecretName t.name))
      (env.secrets.get (profileSecretName t.name)) w
    rw [hcalled] at hsame
    rw [Recording, hsame]
  rw [hsetting] at hprofile
  have hsecret : ∀ profile, setting = .ok profile →
      Returns (Recording (t.objectsOf setting) (w.recordedObjects ++ t.objectsOf setting))
        (t.createResultsSecret env) fun x v => Recording ((t.plan profile).map StepPod.object)
          (w.recordedObjects ++ t.objectsOf setting) v ∧ x = .ok () := by
    intro profile hok
    subst hok
    unfold createResultsSecret
    rw [if_pos hdry]
    exact .bind (record_returns "Secret" t.name t.resultsSecret.toJson.sorted) fun _ =>
      .done fun _ hv => ⟨hv, rfl⟩
  have hrun := t.run_returns (I := fun rest => Recording (rest.map StepPod.object)
      (w.recordedObjects ++ t.objectsOf setting))
    (F := fun v => v.recordedObjects = w.recordedObjects ++ t.objectsOf setting)
    (t.runner.runPods_records hdry) hprofile
    (fun e he v hv => by
      rw [he] at hv ⊢
      exact (List.append_nil _).symm.trans hv)
    hsecret fun v hv => (List.append_nil _).symm.trans hv
  obtain ⟨x, w', heq, hobjects, hresult⟩ := hrun.returns rfl
  exact ⟨x, w', heq, hobjects, hresult⟩

end StagedTest

end

/-! ## What a dry run calls -/

def callsIn (log : List Entry) : List Call :=
  log.filterMap fun
    | .called c => some c
    | _ => none

theorem callsIn_eq_secretCallsIn {log : List Entry}
    (h : ∀ c, .called c ∈ log → c.secretLine?.isSome = true) : callsIn log = secretCallsIn log := by
  refine List.filterMap_congr fun e he => ?_
  cases e with
  | called c => simp [h c he]
  | _ => rfl

namespace StagedTest

variable {t : StagedTest} {env : Surroundings σ} {params : Parameters σ} {w : World σ}

def dryCalls (t : StagedTest) : List Call :=
  if t.definition.profile.isSome then [.getSecret (profileSecretName t.name)] else []

theorem run_dryCalls (hdry : t.dry = true) (hw : w.watchers = []) :
    w.Along (callsIn · = t.dryCalls) (t.run env params w).2 := by
  have hS : Grows (fun e => callsIn [e] = []) (callsIn · = t.dryCalls) := by
    intro log e he hlog
    rw [callsIn, List.filterMap_append]
    exact (congrArg (_ ++ ·) he).trans ((List.append_nil _).trans hlog)
  have halone : ∀ {l : List Entry} {o v}, t.Resolves params (t.lookedState env w) l o →
      w.Alone l v → w.Along (callsIn · = t.dryCalls) v := by
    intro l o v hl hv
    refine hv.2.mono fun log _ ⟨hfilter, hcalls⟩ => ?_
    rw [callsIn_eq_secretCallsIn hcalls, ← secretCallsIn_filter, hfilter]
    exact hl.calls
  have hprepare : Meets (fun v => v = w) (t.prepare env params)
      (fun _ => w.Along (callsIn · = t.dryCalls)) (w.Along (callsIn · = t.dryCalls)) := by
    have hresolve : Meets (fun v => v = w) (t.resolveProfile env params)
        (fun _ => w.Along (callsIn · = t.dryCalls)) (w.Along (callsIn · = t.dryCalls)) :=
      (t.resolveProfile_alone env params hw).weaken (fun _ hv => hv)
        (fun _ _ ⟨l, hl, hv⟩ => halone hl hv) fun _ ⟨l, hl, hv⟩ => halone hl hv
    refine .bind hresolve fun x => ?_
    cases x with
    | error e => exact .done fun _ hv => hv
    | ok profile =>
      refine .bind (Q := fun _ => w.Along (callsIn · = t.dryCalls)) ?_ fun created => ?_
      · unfold createResultsSecret
        rw [if_pos hdry]
        exact .bind (.change fun _ hv => hv.note hS rfl fun _ => rfl) fun _ => .done fun _ hv => hv
      · cases created <;> exact .done fun _ hv => hv
  have hphases : ∀ profile phase, Keeps (w.Along (callsIn · = t.dryCalls))
      (t.runPhase env profile phase) := by
    intro profile phase
    have hrunner : t.runner.dry = true := hdry
    refine t.runner.runPhase_keeps_of_pods _ _ phase _ fun pods _ => ?_
    unfold Runner.runPods
    rw [if_pos hrunner]
    refine t.runner.runAll_keeps _ _ fun p _ text => t.runner.attempt_keeps_of_run ?_
      (fun v hv => ?_) (fun _ _ hv => hv.note hS rfl fun _ => rfl) text
    · unfold Runner.run
      rw [if_pos hrunner]
      exact .bind (.change fun _ hv => hv.note hS rfl fun _ => rfl) fun _ => .done _
    · have hv' : w.Along (callsIn · = t.dryCalls) { v with observer := t.runner.observerFor p } :=
        hv.of_eq rfl rfl
      exact hv'.note hS rfl fun _ => rfl
  exact (t.run_meets hprepare fun profile =>
    t.runPhases_meets profile fun phase => .ofKeeps (hphases profile phase)).ends rfl

end StagedTest

namespace Rehearsal

def profiledSteps : StagedTest :=
  { threeSteps with definition := { threeSteps.definition with profile := some .aws } }

def namedParameters {σ : Type} : Parameters σ := ⟨fun name s => (.ok name, s), fun _ _ => []⟩

def profiledCluster (token : Token) : World Rehearsed :=
  .start
    { pods := { now := now }
      secrets := SecretStore.withSecret {} (profileSecretName "e2e") } token .empty

theorem willing_profiledCluster (token : Token) : (profiledCluster token).cluster.Willing :=
  ⟨rfl, fun _ => rfl, fun _ => rfl, fun _ => rfl, rfl⟩

end Rehearsal

namespace StagedTest

/-- A dry run makes no calls but that for the secret of the profile. Where that is found, it records
what a run creates on an obliging cluster if the parameters answer both runs alike, and it comes to
the same result; nothing is asked of the token of the dry run. -/
theorem run_dry (t : StagedTest) (dryEnv : Surroundings τ) (dryParams : Parameters τ)
    (hdry : t.dry = false) {v : World τ} (hv : v.watchers = []) :
    v.Along (callsIn · = t.dryCalls) ({ t with dry := true }.run dryEnv dryParams v).2 ∧
    ∀ (env : Surroundings σ) (params : Parameters σ) (reached : Stage → σ → Prop) (w : World σ),
      Obliging t env params (t.planOf (t.setting (t.answers env params w))) reached →
      reached .begun w.cluster → w.watchers = [] → w.token.isCancelled = false →
      w.observer.nested.isStopped = false → t.Finds dryEnv v →
      t.answers dryEnv dryParams v = t.answers env params w →
      ∃ result dryTest realTest v' w' objects,
        { t with dry := true }.run dryEnv dryParams v = (.returned (result, dryTest), v') ∧
        t.run env params w = (.returned (result, realTest), w') ∧
        v'.recordedObjects = v.recordedObjects ++ objects ∧
        w'.createdObjects = w.createdObjects ++ objects := by
  refine ⟨run_dryCalls (t := { t with dry := true }) rfl hv, ?_⟩
  intro env params reached w hobliging hbegun hwatchers htoken hunstopped hfinds hanswers
  obtain ⟨⟨result, realTest⟩, w', hreal, hcreated, hresult⟩ :=
    run_creates hobliging hdry hbegun hwatchers htoken hunstopped
  obtain ⟨⟨dryResult, dryTest⟩, v', hrun, hrecorded, hdryResult⟩ :=
    run_records (t := { t with dry := true }) dryParams rfl hfinds
  have hrecorded' : v'.recordedObjects =
      v.recordedObjects ++ t.objectsOf (t.setting (t.answers dryEnv dryParams v)) := hrecorded
  have hsame : dryResult = t.outcomeOf (t.setting (t.answers dryEnv dryParams v)) := hdryResult
  rw [hanswers] at hrecorded' hsame
  obtain rfl : dryResult = result := hsame.trans hresult.symm
  exact ⟨dryResult, dryTest, realTest, v', w', _, hrun, hreal, hrecorded', hcreated⟩

open Rehearsal (profiledSteps namedParameters profiledCluster willing_profiledCluster)

theorem run_dry_profiledSteps : ∃ result dryTest realTest v' w' objects,
    { profiledSteps with dry := true }.run Rehearsed.surroundings namedParameters
      (profiledCluster ⟨some "stop"⟩) = (.returned (result, dryTest), v') ∧
    profiledSteps.run Rehearsed.surroundings namedParameters (profiledCluster .fresh) =
      (.returned (result, realTest), w') ∧
    v'.recordedObjects = objects ∧ w'.createdObjects = objects ∧
    objects.map (·.name) = ["e2e", "e2e-setup", "e2e-probe", "e2e-clean"] := by
  have hobliging : ∀ plan, Obliging profiledSteps Rehearsed.surroundings namedParameters plan
      (Rehearsed.reached profiledSteps) := Rehearsed.obliging profiledSteps fun _ _ => rfl
  obtain ⟨-, hdry⟩ := run_dry profiledSteps Rehearsed.surroundings namedParameters rfl
    (v := profiledCluster ⟨some "stop"⟩) rfl
  obtain ⟨result, dryTest, realTest, v', w', objects, hrun, hreal, hrecorded, hcreated⟩ :=
    hdry Rehearsed.surroundings namedParameters (Rehearsed.reached profiledSteps)
      (profiledCluster .fresh) (hobliging _) ⟨willing_profiledCluster _, fun _ => rfl⟩ rfl rfl rfl
      (fun _ => ⟨_, _, rfl⟩) rfl
  refine ⟨result, dryTest, realTest, v', w', objects, hrun, hreal, hrecorded, hcreated, ?_⟩
  have hobjects : objects = ({ profiledSteps with dry := true }.run Rehearsed.surroundings
      namedParameters (profiledCluster ⟨some "stop"⟩)).2.recordedObjects := by
    rw [hrun]
    exact hrecorded.symm
  rw [hobjects]
  decide +kernel

end StagedTest

end StagedTests
