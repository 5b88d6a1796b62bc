import StagedTests.Proofs.Pod.Synthesis
import StagedTests.Proofs.Run.Deletion

/-!
# The secrets of a test

Before its phases a test asks for the secret of its profile and for the release images, and puts a
new secret of results in place. Nobody watches the token yet, so the journal shows nothing but these
calls and a cancellation. What is called for depends on the answers alone, and nothing is called on
pods before the new secret is there.
-/

namespace StagedTests

variable {σ : Type}

open StagedTests.Task (Leads Meets)

def Entry.isPreparatory : Entry → Bool
  | .called c | .answered c _ => c.secretLine?.isSome
  | .asked _ => true
  | _ => false

def secretCallsIn (log : List Entry) : List Call :=
  log.filterMap fun
    | .called c => if c.secretLine?.isSome then some c else none
    | _ => none

def parametersIn (log : List Entry) : List String :=
  log.filterMap fun
    | .asked name => some name
    | _ => none

theorem secretCallsIn_filter (log : List Entry) :
    secretCallsIn (log.filter Entry.isPreparatory) = secretCallsIn log := by
  rw [secretCallsIn, secretCallsIn, List.filterMap_filter]
  refine congrArg (fun f => List.filterMap f log) (funext fun e => ?_)
  cases e with
  | called c => cases h : c.secretLine?.isSome <;> simp [Entry.isPreparatory, h]
  | answered c problem => cases h : c.secretLine?.isSome <;> simp [Entry.isPreparatory, h]
  | _ => rfl

/-- Since `w₀` secrets and parameters were called for as listed, and nothing else. Nobody watches. -/
def World.Alone (w₀ : World σ) (l : List Entry) (w : World σ) : Prop :=
  w.watchers = [] ∧ w₀.Along (fun log => log.filter Entry.isPreparatory = l ∧
    ∀ c, .called c ∈ log → c.secretLine?.isSome = true) w

section

variable {w₀ w w' : World σ} {l : List Entry}

theorem World.alone_start (h : w.watchers = []) : w.Alone [] w :=
  ⟨h, .start w ⟨rfl, fun _ h => nomatch h⟩⟩

theorem World.Alone.of_eq (h : w₀.Alone l w) (hwatchers : w'.watchers = w.watchers)
    (hjournal : w'.journal = w.journal) (htoken : w'.token = w.token) : w₀.Alone l w' :=
  ⟨hwatchers.trans h.1, h.2.of_eq hjournal htoken⟩

theorem World.Alone.note (h : w₀.Alone l w) {e : Entry} (he : e.isPreparatory = true) :
    w₀.Alone (l ++ [e]) (w.note e) := by
  have hsignal : ∀ t, e.signal t = t := by
    cases e <;> first | exact fun _ => rfl | cases he
  refine ⟨h.1, h.2.add hsignal fun log _ ⟨hl, hcalls⟩ => ⟨?_, fun c hc => ?_⟩⟩
  · rw [List.filter_append, hl, List.filter_cons_of_pos he]
    rfl
  · rcases List.mem_append.mp hc with hc | hc
    · exact hcalls c hc
    · obtain rfl := List.mem_singleton.mp hc
      exact he

theorem keptAtPauses_alone (env : Surroundings σ) (w₀ : World σ) (l : List Entry) :
    KeptAtPauses env (w₀.Alone l) where
  meanwhile := fun _ _ hw => hw.of_eq rfl rfl rfl
  happen := fun x w hw => by
    cases x with
    | cancel reason =>
      refine ⟨(w.watchers_cancel reason).trans hw.1, hw.2.cancel (E := (· = .cancelled reason)) ?_
        reason rfl⟩
      rintro log _ rfl ⟨hl, hcalls⟩
      refine ⟨?_, fun c hc => hcalls c ?_⟩
      · rw [List.filter_append, hl]
        exact List.append_nil l
      · simpa using hc
    | turn i =>
      change w₀.Alone l (env.turn w i)
      rwa [env.turn_of_watchers_eq_nil hw.1]
    | cancelObserver => exact hw.of_eq rfl rfl rfl

theorem call_alone (env : Surroundings σ) (w₀ : World σ) (l : List Entry) {α : Type} {c : Call}
    (hc : c.secretLine?.isSome = true) (op : σ → Reply α × σ) :
    Meets (w₀.Alone l) (Task.call env c op)
      (fun answer => w₀.Alone (l ++ [.called c, .answered c (errorOf? answer)]))
      (w₀.Alone (l ++ [.called c])) := by
  have hcalled : (Entry.called c).isPreparatory = true := hc
  have hpauses := keptAtPauses_alone env w₀ (l ++ [.called c])
  have heffect : Meets (w₀.Alone (l ++ [.called c])) (Task.effect c op)
      (fun reply w => (∀ answer, reply = .answered answer →
        w₀.Alone (l ++ [.called c, .answered c (errorOf? answer)]) w) ∧
          (reply = .hangs → w₀.Alone (l ++ [.called c]) w)) (w₀.Alone (l ++ [.called c])) := by
    intro w hw
    rcases hop : op w.cluster with ⟨answer | _, s⟩
    · have hanswered := World.answer_of_answered c hop
      refine ⟨fun reply w' heq => ?_, fun hnot => by cases hnot⟩
      rw [Task.effect, hanswered] at heq
      cases heq
      have hw' : w₀.Alone (l ++ [.called c]) { w with cluster := s } := hw.of_eq rfl rfl rfl
      have hproblem : (Reply.answered answer).problem? = errorOf? answer := by
        cases answer <;> rfl
      have hnoted := hw'.note (e := .answered c (errorOf? answer)) hc
      rw [List.append_assoc] at hnoted
      rw [hproblem]
      refine ⟨fun answer' heq => ?_, fun heq => by cases heq⟩
      cases heq
      exact hnoted
    · refine ⟨fun reply w' heq => ?_, fun hnot => by cases hnot⟩
      rw [Task.effect, World.answer_of_hangs c hop] at heq
      cases heq
      refine ⟨fun answer heq => ?_, fun _ => hw.of_eq rfl rfl rfl⟩
      cases heq
  refine .bind (Q := fun _ => w₀.Alone (l ++ [.called c])) (.change fun w hw => hw.note hcalled)
    fun _ =>
    .bind (.ofKeeps (hpauses.pause _)) fun _ => .bind heffect fun reply => ?_
  cases reply with
  | answered answer => exact .done fun _ hw => hw.1 answer rfl
  | hangs =>
    exact ((Leads.hang env env.patience).meets_keeps (hpauses.hang env.patience)).weaken
      (fun _ hw => hw.2 rfl) (fun _ _ hw => hw) fun _ hw => hw

end

/-! ## How the preparation may go -/

namespace StagedTest

/-- How the look at the profile's secret and the release images may go, given the state behind that
look: what is called and asked for, and the result unless a call is never answered. -/
inductive Resolves (t : StagedTest) (params : Parameters σ) (s : σ) :
    List Entry → Option (Except ConfigurationError (Option ProfileSetting)) → Prop
  | unset (h : t.definition.profile = none) : Resolves t params s [] (some (.ok none))
  | silent {profile : ClusterProfile} (h : t.definition.profile = some profile) :
    Resolves t params s [.called (.getSecret (profileSecretName t.name))] none
  | missing {profile : ClusterProfile} (h : t.definition.profile = some profile)
    (e : ClientError) :
    Resolves t params s
      [.called (.getSecret (profileSecretName t.name)),
        .answered (.getSecret (profileSecretName t.name)) (some e)]
      (some (.error (.missingProfileSecret (profileSecretName t.name) e)))
  | noInitial {profile : ClusterProfile} (h : t.definition.profile = some profile)
    (e : ParameterError) (hinitial : (params.get initialReleaseParameter s).1 = .error e) :
    Resolves t params s
      [.called (.getSecret (profileSecretName t.name)),
        .answered (.getSecret (profileSecretName t.name)) none, .asked initialReleaseParameter]
      (some (.error (.unresolvedParameter initialReleaseParameter e.message)))
  | noLatest {profile : ClusterProfile} (h : t.definition.profile = some profile)
    (initial : String) (e : ParameterError)
    (hinitial : (params.get initialReleaseParameter s).1 = .ok initial)
    (hlatest : (params.get latestReleaseParameter
      (params.get initialReleaseParameter s).2).1 = .error e) :
    Resolves t params s
      [.called (.getSecret (profileSecretName t.name)),
        .answered (.getSecret (profileSecretName t.name)) none, .asked initialReleaseParameter,
        .asked latestReleaseParameter]
      (some (.error (.unresolvedParameter latestReleaseParameter e.message)))
  | found {profile : ClusterProfile} (h : t.definition.profile = some profile)
    (initial latest : String) (hinitial : (params.get initialReleaseParameter s).1 = .ok initial)
    (hlatest : (params.get latestReleaseParameter
      (params.get initialReleaseParameter s).2).1 = .ok latest) :
    Resolves t params s
      [.called (.getSecret (profileSecretName t.name)),
        .answered (.getSecret (profileSecretName t.name)) none, .asked initialReleaseParameter,
        .asked latestReleaseParameter]
      (some (.ok (some ⟨profile, initial, latest⟩)))

def Cleared (problem : Option ClientError) : Prop := ∀ e, problem = some e → e.isNotFound = true

/-- How the secret of results may be put in place. -/
inductive Renews (t : StagedTest) : List Entry → Option (Except TestError Unit) → Prop
  | silent : Renews t [.called (.deleteSecret t.name)] none
  | stuck (e : ClientError) (h : e.isNotFound = false) :
    Renews t [.called (.deleteSecret t.name), .answered (.deleteSecret t.name) (some e)]
      (some (.error (.resultsSecret t.name e)))
  | waiting (problem : Option ClientError) (h : Cleared problem) :
    Renews t
      [.called (.deleteSecret t.name), .answered (.deleteSecret t.name) problem,
        .called (.createSecret t.resultsSecret)] none
  | refused (problem : Option ClientError) (h : Cleared problem) (e : ClientError) :
    Renews t
      [.called (.deleteSecret t.name), .answered (.deleteSecret t.name) problem,
        .called (.createSecret t.resultsSecret),
        .answered (.createSecret t.resultsSecret) (some e)]
      (some (.error (.resultsSecret t.name e)))
  | created (problem : Option ClientError) (h : Cleared problem) :
    Renews t
      [.called (.deleteSecret t.name), .answered (.deleteSecret t.name) problem,
        .called (.createSecret t.resultsSecret), .answered (.createSecret t.resultsSecret) none]
      (some (.ok ()))

inductive Prepares (t : StagedTest) (params : Parameters σ) (s : σ) :
    List Entry → Option (Except TestError (Option ProfileSetting)) → Prop
  | silent {l : List Entry} (h : t.Resolves params s l none) : Prepares t params s l none
  | stopped {l : List Entry} {e : ConfigurationError}
    (h : t.Resolves params s l (some (.error e))) :
    Prepares t params s l (some (.error (.configuration e)))
  | renewed {l m : List Entry} {profile : Option ProfileSetting}
    {o : Option (Except TestError Unit)} (h : t.Resolves params s l (some (.ok profile)))
    (hm : t.Renews m o) : Prepares t params s (l ++ m) (o.map fun x => x.map fun _ => profile)

variable (t : StagedTest) (env : Surroundings σ) (params : Parameters σ) (w₀ : World σ)

/-- The state behind the look at the profile's secret. -/
def lookedState (w : World σ) : σ :=
  (Task.call env (.getSecret (profileSecretName t.name))
    (env.secrets.get (profileSecretName t.name)) w).2.cluster

/-- The answer to a question and the state behind it are those of the source of the parameters. -/
theorem resolve_meets (name : String) (s : σ) {J J' R : World σ → Prop}
    (hJ : ∀ w, J w →
      J' { w.note (.asked name) with cluster := (params.get name w.cluster).2 }) :
    Meets (fun w => J w ∧ w.cluster = s) (resolve params name)
      (fun x w => (J' w ∧ w.cluster = (params.get name s).2) ∧
        x = (params.get name s).1.mapError fun e => .unresolvedParameter name e.message) R := by
  rintro w ⟨hw, rfl⟩
  refine ⟨fun x w' heq => ?_, fun hnot => nomatch hnot⟩
  cases heq
  exact ⟨⟨hJ w hw, rfl⟩, rfl⟩

theorem resolve_alone (name : String) (l : List Entry) (s : σ) {R : World σ → Prop} :
    Meets (fun w => w₀.Alone l w ∧ w.cluster = s) (resolve params name)
      (fun x w => (w₀.Alone (l ++ [.asked name]) w ∧ w.cluster = (params.get name s).2) ∧
        x = (params.get name s).1.mapError fun e => .unresolvedParameter name e.message) R := by
  refine resolve_meets params name s fun w hw => ?_
  have hasked : w₀.Alone (l ++ [.asked name]) (w.note (.asked name)) := hw.note rfl
  exact hasked.of_eq rfl rfl rfl

theorem resolveProfile_alone {w : World σ} (hw : w.watchers = []) :
    Meets (fun v => v = w) (t.resolveProfile env params)
      (fun x v => ∃ l, t.Resolves params (t.lookedState env w) l (some x) ∧ w.Alone l v)
      (fun v => ∃ l, t.Resolves params (t.lookedState env w) l none ∧ w.Alone l v) := by
  unfold resolveProfile
  cases hprofile : t.definition.profile with
  | none =>
    refine .done ?_
    rintro v rfl
    exact ⟨[], .unset hprofile, World.alone_start hw⟩
  | some profile =>
    have hlook : Meets (fun v => v = w)
        (Task.call env (.getSecret (profileSecretName t.name))
          (env.secrets.get (profileSecretName t.name)))
        (fun answer v => w.Alone [.called (.getSecret (profileSecretName t.name)),
            .answered (.getSecret (profileSecretName t.name)) (errorOf? answer)] v ∧
          v.cluster = t.lookedState env w)
        (fun v => ∃ l, t.Resolves params (t.lookedState env w) l none ∧ w.Alone l v) := by
      rintro v rfl
      obtain ⟨hreturned, hended⟩ := call_alone env v []
        (c := .getSecret (profileSecretName t.name)) rfl
        (env.secrets.get (profileSecretName t.name)) v (World.alone_start hw)
      refine ⟨fun answer v' heq => ⟨hreturned answer v' heq, ?_⟩, fun hnot =>
        ⟨_, .silent hprofile, hended hnot⟩⟩
      rw [lookedState, heq]
    refine .bind hlook fun answer => ?_
    cases answer with
    | error e => exact .done fun v hv => ⟨_, .missing hprofile e, hv.1⟩
    | ok _ =>
      refine .bind (resolve_alone params w initialReleaseParameter _ _) fun initial =>
        .known fun heq => ?_
      cases hinitial : (params.get initialReleaseParameter (t.lookedState env w)).1 with
      | error e =>
        rw [hinitial] at heq
        subst heq
        exact .done fun v hv => ⟨_, .noInitial hprofile e hinitial, hv.1⟩
      | ok value =>
        rw [hinitial] at heq
        subst heq
        refine .bind (resolve_alone params w latestReleaseParameter _ _) fun latest =>
          .known fun heq => ?_
        cases hlatest : (params.get latestReleaseParameter
            (params.get initialReleaseParameter (t.lookedState env w)).2).1 with
        | error e =>
          rw [hlatest] at heq
          subst heq
          exact .done fun v hv => ⟨_, .noLatest hprofile value e hinitial hlatest, hv.1⟩
        | ok _ =>
          rw [hlatest] at heq
          subst heq
          exact .done fun v hv => ⟨_, .found hprofile value _ hinitial hlatest, hv.1⟩

/-- What a test that does not start returns: the error that matches the answer it stopped at. -/
inductive Fails (t : StagedTest) (params : Parameters σ) (s : σ) (log : List Entry) :
    Except TestError Unit → Prop
  | profile (e : ClientError)
    (h : .answered (.getSecret (profileSecretName t.name)) (some e) ∈ log) :
    Fails t params s log
      (.error (.configuration (.missingProfileSecret (profileSecretName t.name) e)))
  | initial (e : ParameterError) (h : (params.get initialReleaseParameter s).1 = .error e)
    (hasked : parametersIn log = [initialReleaseParameter]) :
    Fails t params s log
      (.error (.configuration (.unresolvedParameter initialReleaseParameter e.message)))
  | latest (e : ParameterError)
    (h : (params.get latestReleaseParameter (params.get initialReleaseParameter s).2).1 = .error e)
    (hasked : parametersIn log = [initialReleaseParameter, latestReleaseParameter]) :
    Fails t params s log
      (.error (.configuration (.unresolvedParameter latestReleaseParameter e.message)))
  | delete (e : ClientError) (h : .answered (.deleteSecret t.name) (some e) ∈ log)
    (he : e.isNotFound = false) : Fails t params s log (.error (.resultsSecret t.name e))
  | create (e : ClientError) (h : .answered (.createSecret t.resultsSecret) (some e) ∈ log) :
    Fails t params s log (.error (.resultsSecret t.name e))

section

variable {t params} {s : σ} {l log : List Entry}

theorem Resolves.calls {o : Option (Except ConfigurationError (Option ProfileSetting))}
    (h : t.Resolves params s l o) : secretCallsIn l =
      if t.definition.profile.isSome then [.getSecret (profileSecretName t.name)] else [] := by
  cases h with
  | unset h | silent h | missing h | noInitial h | noLatest h | found h => rw [h]; rfl

theorem Resolves.parameters {o : Option (Except ConfigurationError (Option ProfileSetting))}
    (h : t.Resolves params s l o) :
    (.answered (.getSecret (profileSecretName t.name)) none ∉ l → parametersIn l = []) ∧
    (.answered (.getSecret (profileSecretName t.name)) none ∈ l →
      (∀ e, (params.get initialReleaseParameter s).1 = .error e →
        parametersIn l = [initialReleaseParameter]) ∧
      ∀ value, (params.get initialReleaseParameter s).1 = .ok value →
        parametersIn l = [initialReleaseParameter, latestReleaseParameter]) := by
  cases h with
  | unset | silent | missing => simp [parametersIn]
  | noInitial _ e hinitial => simp [parametersIn, hinitial]
  | noLatest _ _ e hinitial | found _ _ _ hinitial => simp [parametersIn, hinitial]

theorem Renews.calls {o : Option (Except TestError Unit)} (h : t.Renews l o) :
    ∃ creates : Bool, secretCallsIn l =
        .deleteSecret t.name :: (if creates then [.createSecret t.resultsSecret] else []) ∧
      (creates = true ↔
        ∃ problem, .answered (.deleteSecret t.name) problem ∈ l ∧ Cleared problem) := by
  cases h with
  | silent => exact ⟨false, rfl, by simp⟩
  | stuck e h => exact ⟨false, rfl, by simp [Cleared, h]⟩
  | waiting problem h | refused problem h | created problem h =>
    refine ⟨true, rfl, iff_of_true rfl ⟨problem, by simp, h⟩⟩

theorem Renews.parameters {o : Option (Except TestError Unit)} (h : t.Renews l o) :
    parametersIn l = [] := by
  cases h <;> rfl

theorem Resolves.fails {e : ConfigurationError} (h : t.Resolves params s l (some (.error e))) :
    t.Fails params s l (.error (.configuration e)) := by
  cases h with
  | missing _ e => exact .profile e (by simp)
  | noInitial _ e hinitial => exact .initial e hinitial rfl
  | noLatest _ _ e _ hlatest => exact .latest e hlatest rfl

theorem Renews.fails {e : TestError} (h : t.Renews l (some (.error e))) (l' : List Entry) :
    t.Fails params s (l' ++ l) (.error e) := by
  cases h with
  | stuck e he => exact .delete e (by simp) he
  | refused _ _ e => exact .create e (by simp)

/-- What the preparation returns where it does not lead on to the phases. -/
theorem Prepares.fails {e : TestError} (h : t.Prepares params s l (some (.error e))) :
    t.Fails params s l (.error e) := by
  generalize ho : some (Except.error e) = o at h
  rcases h with _ | hl | @⟨l, m, profile, o, hl, hm⟩
  · cases ho
  · cases ho
    exact hl.fails
  · obtain ⟨x, rfl, hx⟩ := Option.map_eq_some_iff.mp ho.symm
    cases x with
    | ok _ => cases hx
    | error e' =>
      cases hx
      exact hm.fails l

/-- Where the preparation leads on to the phases, the secret of results is there. -/
theorem Prepares.created {profile : Option ProfileSetting}
    (h : t.Prepares params s l (some (.ok profile))) :
    .answered (.createSecret t.resultsSecret) none ∈ l := by
  generalize ho : some (Except.ok profile) = o at h
  rcases h with _ | _ | @⟨l, m, profile', o, hl, hm⟩
  · cases ho
  · cases ho
  · obtain ⟨x, rfl, hx⟩ := Option.map_eq_some_iff.mp ho.symm
    cases x with
    | error e => cases hx
    | ok _ =>
      cases hm
      simp

end

end StagedTest

end StagedTests
