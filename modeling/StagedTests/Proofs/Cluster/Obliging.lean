import StagedTests.Run.Rehearsal

/-!
# Obliging clusters

On an obliging cluster all goes well for a test: every call that the run makes is accepted, nobody
cancels the run, and every pod is seen to have succeeded before the run gives it up. What the cluster
does is told along the stages of such a run. A cluster in memory is obliging where it refuses
nothing and its pods are to succeed.
-/

namespace StagedTests

variable {σ : Type}

/-- How far a run has come in which all goes well, with the pods that are still to be run. -/
inductive Stage
  | begun
  /-- The secret of the profile was found, if one is set. -/
  | found
  /-- There is no secret of results any more. -/
  | cleared
  | idle (rest : List StepPod)
  /-- A pod that was left over was deleted and is gone after no more than so many looks. -/
  | leaving (p : StepPod) (rest : List StepPod) (looks : Nat)
  | vacant (p : StepPod) (rest : List StepPod)
  /-- The pod is seen to have succeeded after no more than so many looks. -/
  | running (p : StepPod) (rest : List StepPod) (looks : Nat)

def Answers {α : Type} (op : σ → Reply α × σ) (s : σ) (B : Except ClientError α → σ → Prop) : Prop :=
  ∃ answer s', op s = (.answered answer, s') ∧ B answer s'

/-- Others let the state be as `A` says, cancel nothing and do no more than give watchers a turn. -/
structure Calm (env : Surroundings σ) (A : σ → Prop) : Prop where
  kept : ∀ m n s, A s → A (env.meanwhile m n s).2
  quiet : ∀ m n s, A s → ∀ x ∈ (env.meanwhile m n s).1.happenings, ∃ i, x = .turn i

/-- What the cluster does along the stages of a run, which `reached` tells from its state. The pods
of the run are those of the plan. -/
structure Obliging (t : StagedTest) (env : Surroundings σ) (params : Parameters σ)
    (plan : List StepPod) (reached : Stage → σ → Prop) : Prop where
  calm : ∀ stage, Calm env (reached stage)
  exec : ∀ stage pod container words s, reached stage s →
    Answers (env.pods.exec pod container words) s fun _ => reached stage
  unset : t.definition.profile = none → ∀ s, reached .begun s → reached .found s
  getSecret : t.definition.profile ≠ none → ∀ s, reached .begun s →
    Answers (env.secrets.get (profileSecretName t.name)) s fun answer s' =>
      match answer with
      | .ok _ => reached .found s'
      | .error _ => False
  valued : ∀ name s, reached .found s → reached .found (params.get name s).2
  deleteSecret : ∀ s, reached .found s →
    Answers (env.secrets.delete t.name) s fun answer s' =>
      match answer with
      | .ok _ => reached .cleared s'
      | .error e => e.isNotFound = true ∧ reached .cleared s'
  createSecret : ∀ s, reached .cleared s →
    Answers (env.secrets.create t.resultsSecret) s fun answer s' =>
      match answer with
      | .ok _ => reached (.idle plan) s'
      | .error _ => False
  deletePod : ∀ p rest s, reached (.idle (p :: rest)) s →
    Answers (env.pods.delete p.name) s fun answer s' =>
      match answer with
      | .ok _ => ∃ looks < env.patience, reached (.leaving p rest looks) s'
      | .error e => e.isNotFound = true ∧ reached (.vacant p rest) s'
  awaited : ∀ p rest looks s, reached (.leaving p rest looks) s →
    Answers (env.pods.get p.name) s fun answer s' =>
      match answer with
      | .ok _ => ∃ fewer < looks, reached (.leaving p rest fewer) s'
      | .error e => e.isNotFound = true ∧ reached (.vacant p rest) s'
  createPod : ∀ p rest s, reached (.vacant p rest) s →
    Answers (env.pods.create p.pod) s fun answer s' =>
      match answer with
      | .ok _ => ∃ looks < env.patience, reached (.running p rest looks) s'
      | .error _ => False
  watched : ∀ p rest looks s, reached (.running p rest looks) s →
    Answers (env.pods.get p.name) s fun answer s' =>
      match answer with
      | .ok pod =>
        match PodPhase.ofStatus pod.phaseText with
        | .succeeded => reached (.idle rest) s'
        | .failed => False
        | _ => ∃ fewer < looks, reached (.running p rest fewer) s'
      | .error _ => False

namespace Rehearsed

structure Willing (r : Rehearsed) : Prop where
  canceller : r.canceller = none
  outcomes : ∀ name, (r.pods.outcomes.get? name).getD .succeed = .succeed
  refused : ∀ name, r.pods.refused.contains name = false
  hanging : ∀ program, r.pods.hanging.contains program = false
  refusing : r.secrets.refusing = false

/-- What a cluster in memory has come to. A pod succeeds at the second look. -/
def reached (t : StagedTest) (stage : Stage) (r : Rehearsed) : Prop :=
  r.Willing ∧ match stage with
    | .begun => t.definition.profile ≠ none →
      r.secrets.secrets.contains (profileSecretName t.name) = true
    | .found | .idle _ => True
    | .cleared => r.secrets.secrets.contains t.name = false
    | .leaving p _ _ | .vacant p _ => r.pods.pods.contains p.name = false
    | .running p _ looks => ∃ stored, r.pods.pods.get? p.name = some stored ∧
      1 ≤ stored.polls + looks

theorem calm {A : Rehearsed → Prop} (h : ∀ r, A r → r.canceller = none) : Calm surroundings A where
  kept := fun m n r hr => by
    simp only [surroundings, act, h r hr]
    split <;> exact hr
  quiet := fun m n r hr x hx => by
    simp only [surroundings, act, h r hr] at hx
    split at hx
    · obtain ⟨i, -, rfl⟩ := List.mem_map.mp hx
      exact ⟨i, rfl⟩
    · cases hx

section

variable {r : Rehearsed}

theorem Willing.onPods (h : r.Willing) {pods : PodStore} (houtcomes : pods.outcomes = r.pods.outcomes)
    (hrefused : pods.refused = r.pods.refused) (hhanging : pods.hanging = r.pods.hanging) :
    Willing { r with pods := pods } := by
  refine ⟨h.canceller, fun name => ?_, fun name => ?_, fun program => ?_, h.refusing⟩
  · rw [houtcomes]
    exact h.outcomes name
  · rw [hrefused]
    exact h.refused name
  · rw [hhanging]
    exact h.hanging program

theorem Willing.onSecrets (h : r.Willing) {secrets : SecretStore}
    (hrefusing : secrets.refusing = r.secrets.refusing) :
    Willing { r with secrets := secrets } :=
  ⟨h.canceller, h.outcomes, h.refused, h.hanging, hrefusing.trans h.refusing⟩

end

def nextLook (now : Instant) (stored : StoredPod) : Pod :=
  { stored.pod with status := some (PodStore.simulate now (stored.polls + 1) .succeed stored.pod) }

theorem ofStatus_nextLook (now : Instant) (stored : StoredPod) :
    PodPhase.ofStatus (nextLook now stored).phaseText =
      if stored.polls = 0 then .running else .succeeded := by
  by_cases h : stored.polls = 0
  · simp only [nextLook, Pod.phaseText, Option.bind_some, PodStore.simulate, h, if_true]
    rfl
  · have hpolls : ¬ stored.polls + 1 ≤ 1 := by omega
    simp only [nextLook, Pod.phaseText, Option.bind_some, PodStore.simulate, hpolls, h, if_false]
    rfl

theorem get_stored {r : Rehearsed} {name : String} {stored : StoredPod} (hwilling : r.Willing)
    (hstored : r.pods.pods.get? name = some stored) :
    surroundings.pods.get name r = (.answered (.ok (nextLook r.pods.now stored)),
      { r with pods := { r.pods with
        pods := r.pods.pods.insert name ⟨stored.pod, stored.polls + 1⟩ } }) := by
  simp [surroundings, Rehearsed.onPods, PodStore.get, hstored, hwilling.outcomes, nextLook, Reply.ok]

theorem get_missing {r : Rehearsed} {name : String} (h : r.pods.pods.contains name = false) :
    surroundings.pods.get name r = (.answered (.error (.notFound .pod name)), r) := by
  have hnone : r.pods.pods.get? name = none := by
    simpa [Table.contains] using h
  simp [surroundings, Rehearsed.onPods, PodStore.get, hnone, Reply.error]

/-- A willing cluster is obliging whatever test is run on it. -/
theorem obliging (t : StagedTest) {params : Parameters Rehearsed}
    (hparams : ∀ name r, (params.get name r).2 = r) (plan : List StepPod) :
    Obliging t surroundings params plan (reached t) where
  calm := fun stage => calm fun r hr => hr.1.canceller
  exec := fun stage pod container words r ⟨hwilling, hr⟩ => by
    refine ⟨.ok ((r.pods.outputs.get? (words.headD "")).getD (.bytes [])),
      { r with pods := { r.pods with execs := r.pods.execs ++ [⟨pod, container, words⟩] } }, ?_,
      hwilling.onPods rfl rfl rfl, ?_⟩
    · simp [surroundings, Rehearsed.onPods, PodStore.exec, hwilling.hanging, Reply.ok]
    · cases stage <;> exact hr
  unset := fun hnone r ⟨hwilling, _⟩ => ⟨hwilling, trivial⟩
  getSecret := fun hset r ⟨hwilling, hr⟩ => by
    obtain ⟨secret, hsecret⟩ := Option.isSome_iff_exists.mp (hr hset)
    refine ⟨.ok secret, { r with secrets := r.secrets.note "get" (profileSecretName t.name) }, ?_,
      hwilling.onSecrets rfl, trivial⟩
    simp [surroundings, Rehearsed.onSecrets, SecretStore.get, SecretStore.note, hsecret, Reply.ok]
  valued := fun name r hr => by rwa [hparams]
  deleteSecret := fun r ⟨hwilling, _⟩ => by
    cases hthere : r.secrets.secrets.contains t.name with
    | true =>
      refine ⟨.ok (), { r with secrets := { r.secrets.note "delete" t.name with
        secrets := r.secrets.secrets.erase t.name } }, ?_, hwilling.onSecrets rfl, ?_⟩
      · simp [surroundings, Rehearsed.onSecrets, SecretStore.delete, SecretStore.note, hthere,
          Reply.ok]
      · simp [Table.contains, Table.get?_erase]
    | false =>
      refine ⟨.error (.notFound .secret t.name),
        { r with secrets := r.secrets.note "delete" t.name }, ?_, rfl, hwilling.onSecrets rfl, hthere⟩
      simp [surroundings, Rehearsed.onSecrets, SecretStore.delete, SecretStore.note, hthere,
        Reply.error]
  createSecret := fun r ⟨hwilling, hr⟩ => by
    have hname : t.resultsSecret.name = t.name := rfl
    have hgone : r.secrets.secrets.contains t.name = false := hr
    refine ⟨.ok t.resultsSecret, { r with secrets := { r.secrets.note "create" t.name with
      secrets := r.secrets.secrets.insert t.name t.resultsSecret } }, ?_, hwilling.onSecrets rfl,
      trivial⟩
    simp [surroundings, Rehearsed.onSecrets, SecretStore.create, SecretStore.note, hname, hgone,
      hwilling.refusing, Reply.ok]
  deletePod := fun p rest r ⟨hwilling, _⟩ => by
    cases hthere : r.pods.pods.contains p.name with
    | true =>
      refine ⟨.ok (), { r with pods := { r.pods with
        pods := r.pods.pods.erase p.name, deleted := r.pods.deleted ++ [p.name] } }, ?_,
        0, by decide, hwilling.onPods rfl rfl rfl, ?_⟩
      · simp [surroundings, Rehearsed.onPods, PodStore.delete, hthere, Reply.ok]
      · simp [Table.contains, Table.get?_erase]
    | false =>
      refine ⟨.error (.notFound .pod p.name), r, ?_, rfl, hwilling, hthere⟩
      simp [surroundings, Rehearsed.onPods, PodStore.delete, hthere, Reply.error]
  awaited := fun p rest looks r ⟨hwilling, hr⟩ =>
    ⟨.error (.notFound .pod p.name), r, get_missing hr, rfl, hwilling, hr⟩
  createPod := fun p rest r ⟨hwilling, hr⟩ => by
    have hname : p.pod.name = p.name := rfl
    have hgone : r.pods.pods.contains p.name = false := hr
    refine ⟨.ok p.pod, { r with pods := { r.pods with
      pods := r.pods.pods.insert p.name ⟨p.pod, 0⟩, created := r.pods.created ++ [p.name] } }, ?_,
      1, by decide, hwilling.onPods rfl rfl rfl, ⟨p.pod, 0⟩, Table.get?_insert_self .., Nat.le_refl 1⟩
    simp [surroundings, Rehearsed.onPods, PodStore.create, hname, hgone, hwilling.refused, Reply.ok]
  watched := fun p rest looks r ⟨hwilling, stored, hstored, hlooks⟩ => by
    have hnext : Willing { r with pods := { r.pods with
        pods := r.pods.pods.insert p.name ⟨stored.pod, stored.polls + 1⟩ } } :=
      hwilling.onPods rfl rfl rfl
    refine ⟨_, _, get_stored hwilling hstored, ?_⟩
    dsimp only
    rw [ofStatus_nextLook]
    by_cases hpolls : stored.polls = 0
    · rw [if_pos hpolls]
      refine ⟨looks - 1, by omega, hnext, _, Table.get?_insert_self .., ?_⟩
      dsimp only
      omega
    · rw [if_neg hpolls]
      exact ⟨hnext, trivial⟩

end Rehearsed

end StagedTests
