import StagedTests.Proofs.Error
import StagedTests.Proofs.Run.Layers
import StagedTests.Proofs.Run.Phase
import StagedTests.Run.Rehearsal

/-!
# The attempts of a test

A test that could start attempts the pods of its three phases one after the other: those of the
tests only if the setup passed, those of the cleanup in any case. It passes if every step has a pod
whose run ended well; otherwise its errors are those of the phases, in one flat list.
-/

namespace StagedTests

variable {σ : Type}

/-! ## Flat lists of errors -/

namespace TestError

def IsFlat (errors : List TestError) : Prop := ∀ e ∈ errors, e.phase?.isSome

theorem flatten_of_isFlat {errors : List TestError} (h : IsFlat errors) :
    flatten errors = errors := by
  refine flatten_of_leaves fun e he => isLeaf_iff.mpr ?_
  rintro members rfl
  cases h _ he

theorem flatten_gather {errors : List TestError} (h : IsFlat errors) :
    flatten (StagedTest.runPhases.gather errors) = errors := by
  cases errors with
  | nil => rfl
  | cons e rest =>
    change flatten (e :: rest) ++ [] = _
    rw [List.append_nil, flatten_of_isFlat h]

theorem resultOf_gather {as bs : List TestError} (has : IsFlat as) (hbs : IsFlat bs) :
    resultOf (StagedTest.runPhases.gather as ++ StagedTest.runPhases.gather bs) =
      if (as ++ bs).isEmpty then .ok () else .error (as ++ bs) := by
  rw [resultOf, flatten_append, flatten_gather has, flatten_gather hbs]
  cases as <;> cases bs <;> rfl

end TestError

namespace Synthesizer

variable (s : Synthesizer) (d : Definition) (pre test post : List Attempt)

/-- The attempts that the phases of a test make. -/
structure Stages : Prop where
  setup : s.Attempts .shortCircuit d.pre pre
  testing : s.Passes d.pre pre → s.Attempts .shortCircuit d.test test
  skipping : ¬ s.Passes d.pre pre → test = []
  cleanup : s.Attempts .runAll d.post post

def firstErrors : List TestError :=
  if (s.phaseErrors .pre d.pre pre).isEmpty then s.phaseErrors .test d.test test
  else s.phaseErrors .pre d.pre pre

def errors : List TestError :=
  s.firstErrors d pre test ++ s.phaseErrors .post d.post post

def resultOf : Except (List TestError) Unit :=
  if (s.errors d pre test post).isEmpty then .ok () else .error (s.errors d pre test post)

/-- The steps that failed, with their phases, in the order in which they are declared. -/
def failures : List (Phase × Step) :=
  (if (s.phaseErrors .pre d.pre pre).isEmpty then (s.failed d.test test).map (.test, ·)
    else (s.failed d.pre pre).map (.pre, ·)) ++ (s.failed d.post post).map (.post, ·)

theorem phaseErrors_phase {phase : Phase} {steps : List Step} {as : List Attempt} {e : TestError}
    (h : e ∈ s.phaseErrors phase steps as) : e.phase? = some phase := by
  rcases List.mem_append.mp h with h | h <;> obtain ⟨_, -, rfl⟩ := List.mem_map.mp h <;> rfl

theorem isFlat_phaseErrors (phase : Phase) (steps : List Step) (as : List Attempt) :
    TestError.IsFlat (s.phaseErrors phase steps as) := by
  intro e he
  rw [s.phaseErrors_phase he]
  rfl

theorem isFlat_firstErrors : TestError.IsFlat (s.firstErrors d pre test) := by
  unfold firstErrors
  split <;> exact s.isFlat_phaseErrors _ _ _

theorem exists_attempts (policy : Policy) (steps : List Step) :
    ∃ as, s.Attempts policy steps as := by
  by_cases h : s.faults steps = []
  · obtain ⟨pods, -, hmakes⟩ := s.generatePods_of_no_faults h
    exact ⟨_, .inr ⟨pods, hmakes, policy.reaches_passes pods⟩⟩
  · exact ⟨[], .inl ⟨rfl, (s.faults_ne_nil_iff steps).mp h⟩⟩

variable {s d pre test}

variable {post}

theorem Stages.errors_eq_nil_iff (h : s.Stages d pre test post) :
    s.errors d pre test post = [] ↔ s.Passes d.allSteps (pre ++ test ++ post) := by
  have hpre := h.setup.phaseErrors_eq_nil_iff .pre
  have hpost := h.cleanup.phaseErrors_eq_nil_iff .post
  constructor
  · intro hnil
    obtain ⟨hfirst, hlast⟩ := List.append_eq_nil_iff.mp hnil
    unfold firstErrors at hfirst
    split at hfirst
    · rename_i hempty
      have hpassed := hpre.mp (List.isEmpty_iff.mp hempty)
      have htest := ((h.testing hpassed).phaseErrors_eq_nil_iff .test).mp hfirst
      exact List.rel_append (List.rel_append hpassed htest) (hpost.mp hlast)
    · rename_i hne
      exact absurd (List.isEmpty_iff.mpr hfirst) hne
  · intro hpasses
    have hok := hpasses.result_ok
    simp only [List.mem_append, or_imp, forall_and] at hok
    obtain ⟨⟨hokPre, hokTest⟩, hokPost⟩ := hok
    have hfaults := (Makes.of_passes hpasses).faults_eq_nil
    simp only [Definition.allSteps, faults, List.filterMap_append, List.append_eq_nil_iff]
      at hfaults
    obtain ⟨⟨hmadePre, hmadeTest⟩, hmadePost⟩ := hfaults
    have hpassed := h.setup.passes hmadePre hokPre
    have htest := (h.testing hpassed).passes hmadeTest hokTest
    rw [errors, firstErrors, hpre.mpr hpassed, hpost.mpr (h.cleanup.passes hmadePost hokPost),
      ((h.testing hpassed).phaseErrors_eq_nil_iff .test).mpr htest]
    rfl

/-- The errors blame the steps that failed, one each and in their order. -/
theorem Stages.blames (h : s.Stages d pre test post)
    (hnames : ∀ as ∈ [pre, test, post], s.Names as) :
    List.Forall₂ (fun x e => s.Blames x.1 x.2 e) (s.failures d pre test post)
      (s.errors d pre test post) := by
  have hpre := h.setup.blames (hnames pre (by simp)) .pre
  have hpost := h.cleanup.blames (hnames post (by simp)) .post
  refine List.rel_append ?_ (List.forall₂_map_left_iff.mpr hpost)
  unfold firstErrors
  split
  · rename_i hempty
    have hpassed := (h.setup.phaseErrors_eq_nil_iff .pre).mp (List.isEmpty_iff.mp hempty)
    exact List.forall₂_map_left_iff.mpr
      ((h.testing hpassed).blames (hnames test (by simp)) .test)
  · exact List.forall₂_map_left_iff.mpr hpre

variable (s d pre test post) in
/-- Errors of the setup and errors of the tests exclude each other. -/
theorem errors_exclusive {e e' : TestError} (h : e ∈ s.errors d pre test post)
    (h' : e' ∈ s.errors d pre test post) (hpre : e.phase? = some .pre) :
    e'.phase? ≠ some .test := by
  have hfirst : ∀ {e p}, e ∈ s.errors d pre test post → e.phase? = some p → p ≠ .post →
      e ∈ s.firstErrors d pre test := by
    intro e p he hp hne
    rcases List.mem_append.mp he with he | he
    · exact he
    · rw [s.phaseErrors_phase he] at hp
      cases hp
      exact absurd rfl hne
  intro htest
  have hin := hfirst h hpre (by decide)
  have hin' := hfirst h' htest (by decide)
  unfold firstErrors at hin hin'
  split at hin
  · rw [s.phaseErrors_phase hin] at hpre
    cases hpre
  · rename_i hne
    rw [if_neg hne] at hin'
    rw [s.phaseErrors_phase hin'] at htest
    cases htest

theorem exists_stages_of_setup (h : s.Attempts .shortCircuit d.pre pre) :
    ∃ test post, s.Stages d pre test post := by
  obtain ⟨post, hpost⟩ := s.exists_attempts .runAll d.post
  by_cases hp : s.Passes d.pre pre
  · obtain ⟨test, htest⟩ := s.exists_attempts .shortCircuit d.test
    exact ⟨test, post, h, fun _ => htest, fun hn => absurd hp hn, hpost⟩
  · exact ⟨[], post, h, fun hp' => absurd hp' hp, fun _ => rfl, hpost⟩

end Synthesizer

namespace StagedTest

variable (t : StagedTest) (env : Surroundings σ) (params : Parameters σ)
  (profile : Option ProfileSetting)

theorem runPhase_shows (phase : Phase) (w : World σ) :
    (t.runPhase env profile phase).Shows w fun as o =>
      (t.synthesizer profile).Attempts (Policy.ofPhase phase) (t.definition.steps phase) as ∧
        (t.synthesizer profile).Names as ∧ ∀ report, o = some report →
          report.errors = (t.synthesizer profile).phaseErrors phase (t.definition.steps phase) as :=
  t.runner.runPhase_shows env (t.synthesizer profile) rfl _ phase _ w

/-- The tests are attempted if the setup passed, and left out otherwise. -/
theorem testing_shows {setup : PhaseReport} {pre : List Attempt}
    (hpasses : setup.errors = [] ↔ (t.synthesizer profile).Passes t.definition.pre pre)
    (w : World σ) :
    (if setup.errors.isEmpty then t.runPhase env profile .test
      else pure ⟨[], []⟩ : Task σ PhaseReport).Shows w fun test o =>
      ((t.synthesizer profile).Passes t.definition.pre pre →
        (t.synthesizer profile).Attempts .shortCircuit t.definition.test test) ∧
      (¬ (t.synthesizer profile).Passes t.definition.pre pre → test = []) ∧
      (t.synthesizer profile).Names test ∧
      ∀ report, o = some report → setup.errors = [] →
        report.errors = (t.synthesizer profile).phaseErrors .test t.definition.test test := by
  by_cases hok : setup.errors.isEmpty
  · have hpass := hpasses.mp (List.isEmpty_iff.mp hok)
    rw [if_pos hok]
    exact (t.runPhase_shows env profile .test w).weaken fun test o ⟨htest, hnames, herrors⟩ =>
      ⟨fun _ => htest, fun hn => absurd hpass hn, hnames, fun report hr _ => herrors report hr⟩
  · have hne : setup.errors ≠ [] := fun h => hok (List.isEmpty_iff.mpr h)
    rw [if_neg hok]
    exact .done ⟨fun hp => absurd (hpasses.mpr hp) hne, fun _ => rfl, (fun _ h => nomatch h),
      fun _ _ h => absurd h hne⟩

theorem runPhases_shows (w : World σ) :
    (t.runPhases env profile).Shows w fun as o => ∃ pre test post,
      as = pre ++ test ++ post ∧ (t.synthesizer profile).Stages t.definition pre test post ∧
      (∀ report w₁, t.runPhase env profile .pre w = (.returned report, w₁) →
        (report.errors = [] ↔ (t.synthesizer profile).Passes t.definition.pre pre)) ∧
      ∀ report, o = some report →
        (∀ as ∈ [pre, test, post], (t.synthesizer profile).Names as) ∧
        TestError.resultOf report.errors =
          (t.synthesizer profile).resultOf t.definition pre test post := by
  rw [runPhases_eq]
  refine .bind (t.runPhase_shows env profile .pre w) ?_ ?_
  · rintro pre setup w₁ hsetup ⟨hpre, hpreNames, herrors⟩
    have hpasses : setup.errors = [] ↔ (t.synthesizer profile).Passes t.definition.pre pre := by
      rw [herrors _ rfl]
      exact hpre.phaseErrors_eq_nil_iff .pre
    have hlink : ∀ report w₂, t.runPhase env profile .pre w = (.returned report, w₂) →
        (report.errors = [] ↔ (t.synthesizer profile).Passes t.definition.pre pre) := by
      intro report w₂ h
      rw [hsetup] at h
      cases h
      exact hpasses
    refine .bind (t.testing_shows env profile hpasses w₁) ?_ ?_
    · rintro test tested w₂ - ⟨htest, hskip, htestNames, herrors'⟩
      refine .bind (t.runPhase_shows env profile .post w₂) ?_ ?_
      · rintro post cleaned w₃ - ⟨hpost, hpostNames, herrors''⟩
        refine .done ⟨pre, test, post, ?_, ⟨hpre, htest, hskip, hpost⟩, hlink, ?_⟩
        · rw [List.append_nil, List.append_assoc]
        · rintro _ ⟨⟩
          refine ⟨by simp [hpreNames, htestNames, hpostNames], ?_⟩
          have hfirst : (if setup.errors.isEmpty then tested.errors else setup.errors) =
              (t.synthesizer profile).firstErrors t.definition pre test := by
            have heq : setup.errors =
                (t.synthesizer profile).phaseErrors .pre t.definition.pre pre := herrors _ rfl
            rw [Synthesizer.firstErrors, ← heq]
            split
            · rename_i hok
              exact herrors' _ rfl (List.isEmpty_iff.mp hok)
            · rfl
          rw [hfirst, herrors'' _ rfl]
          exact TestError.resultOf_gather (Synthesizer.isFlat_firstErrors _ _ _ _)
            (Synthesizer.isFlat_phaseErrors _ _ _ _)
      · rintro post - ⟨hpost, -⟩
        exact ⟨[], pre, test, post, by rw [List.append_nil, List.append_assoc],
          ⟨hpre, htest, hskip, hpost⟩, hlink, fun _ h => nomatch h⟩
    · rintro test - ⟨htest, hskip, -⟩
      obtain ⟨post, hpost⟩ := (t.synthesizer profile).exists_attempts .runAll t.definition.post
      exact ⟨post, pre, test, post, (List.append_assoc ..).symm, ⟨hpre, htest, hskip, hpost⟩, hlink,
        fun _ h => nomatch h⟩
  · rintro pre hnot ⟨hpre, -⟩
    obtain ⟨test, post, hstages⟩ := Synthesizer.exists_stages_of_setup hpre
    exact ⟨test ++ post, pre, test, post, (List.append_assoc ..).symm, hstages,
      fun report w₁ h => absurd h (hnot report w₁), fun _ h => nomatch h⟩

theorem keptByPreparation_marks (marks : List Entry) :
    KeptByPreparation env params fun w => w.marks = marks :=
  have h := keptByRuns_marks env marks
  { toKeptAtPauses := h.toKeptAtPauses
    called := fun c w _ hw => h.called c w trivial hw
    getSecret := fun _ w hw => (w.marks_answer _ _).trans hw
    createSecret := fun _ w hw => (w.marks_answer _ _).trans hw
    deleteSecret := fun _ w hw => (w.marks_answer _ _).trans hw
    asked := fun _ w hw => by
      rw [World.marks_note, hw]
      exact List.append_nil _
    valued := fun _ _ hw => hw
    recorded := h.recorded }

theorem prepare_keeps_marks (marks : List Entry) :
    Task.Keeps (fun w => w.marks = marks) (t.prepare env params) :=
  (keptByPreparation_marks env params marks).prepare t

/-- What a test that could start goes on to do. -/
theorem run_of_prepare {w w₁ : World σ}
    (h : t.prepare env params w = (.returned (.ok profile), w₁)) :
    t.run env params w = (t.runPhases env profile >>= fun report =>
      pure ((TestError.resultOf report.errors).mapError .aggregate,
        { t with subtests := report.cases })) w₁ := by
  have hinvoke : t.invoke env params w = (t.runPhases env profile >>= fun report =>
      pure ((TestError.resultOf report.errors).mapError .aggregate, report.cases)) w₁ :=
    Task.bind_of_returned _ h
  exact (Task.bind_congr _ hinvoke).trans (congrFun (Task.bind_assoc _ _ _) w₁)

theorem run_of_refused {w w₁ : World σ} {e : TestError}
    (h : t.prepare env params w = (.returned (.error e), w₁)) :
    t.run env params w = (.returned (.error e, { t with subtests := [] }), w₁) := by
  have hinvoke : t.invoke env params w = (.returned (.error e, []), w₁) := Task.bind_of_returned _ h
  exact Task.bind_of_returned _ hinvoke

theorem run_of_unprepared {w : World σ} (h : (t.prepare env params w).1.isReturned = false) :
    (t.run env params w).1.isReturned = false ∧
      (t.run env params w).2 = (t.prepare env params w).2 := by
  have hinvoke : (t.invoke env params w).1.isReturned = false ∧
      (t.invoke env params w).2 = (t.prepare env params w).2 := Task.bind_of_not_returned _ h
  have hrun : (t.run env params w).1.isReturned = false ∧
      (t.run env params w).2 = (t.invoke env params w).2 := Task.bind_of_not_returned _ hinvoke.1
  exact ⟨hrun.1, hrun.2.trans hinvoke.2⟩

end StagedTest

namespace Rehearsal

def threeSteps : StagedTest where
  definition :=
    { Definition.ofName "e2e" with
      pre := [.ofCommands "setup" "src" "true"]
      test := [.ofCommands "probe" "src" "true"]
      post := [.ofCommands "clean" "src" "true"] }
  config := quickConfig
  job := job
  dry := false

def failingCluster : World Rehearsed :=
  .start
    { pods := { now := now, outcomes := Table.ofList [("e2e-probe", .fail "no")] }
      secrets := {} } .fresh .empty

def noParameters {σ : Type} : Parameters σ :=
  ⟨fun name s => (.error (.unknown name), s), fun _ _ => []⟩

end Rehearsal

namespace StagedTest

variable (t : StagedTest) (env : Surroundings σ) (params : Parameters σ)
  (profile : Option ProfileSetting)

/-- A test that could start attempts the setup up to the first failure, the tests up to the first
failure if the setup passed, and the whole cleanup. A phase in which a step has no pod attempts
nothing. Every attempt has ended before the next one begins. -/
theorem run_attempts {w w₁ : World σ}
    (h : t.prepare env params w = (.returned (.ok profile), w₁)) :
    ∃ pre test post, (t.synthesizer profile).Stages t.definition pre test post ∧
      Attempt.Made (pre ++ test ++ post) w (t.run env params w).2
        (t.run env params w).1.isReturned ∧
      ∀ report w₂, t.runPhase env profile .pre w₁ = (.returned report, w₂) →
        (report.errors = [] ↔ (t.synthesizer profile).Passes t.definition.pre pre) := by
  have hmarks : w₁.marks = w.marks := (t.prepare_keeps_marks env params w.marks).returned rfl h
  rw [t.run_of_prepare env params profile h]
  have hshows : (t.runPhases env profile >>= fun report =>
      pure ((TestError.resultOf report.errors).mapError TestError.aggregate,
        { t with subtests := report.cases }) : Task σ _).Shows w₁ fun as _ => ∃ pre test post,
      as = pre ++ test ++ post ∧ (t.synthesizer profile).Stages t.definition pre test post ∧
      ∀ report w₂, t.runPhase env profile .pre w₁ = (.returned report, w₂) →
        (report.errors = [] ↔ (t.synthesizer profile).Passes t.definition.pre pre) := by
    refine .bind (t.runPhases_shows env profile w₁) ?_ ?_
    · rintro as report w₂ - ⟨pre, test, post, rfl, hstages, hlink, -⟩
      exact .done ⟨pre, test, post, List.append_nil _, hstages, hlink⟩
    · rintro as - ⟨pre, test, post, rfl, hstages, hlink, -⟩
      exact ⟨[], pre, test, post, List.append_nil _, hstages, hlink⟩
  obtain ⟨_, ⟨pre, test, post, rfl, hstages, hlink⟩, hmade⟩ := hshows
  exact ⟨pre, test, post, hstages, hmade.of_eq hmarks.symm rfl, hlink⟩

theorem run_attempts_threeSteps : ∃ pre test post,
    (Rehearsal.threeSteps.synthesizer none).Stages Rehearsal.threeSteps.definition pre test post ∧
      Attempt.Made (pre ++ test ++ post) Rehearsal.failingCluster
        (Rehearsal.threeSteps.run Rehearsed.surroundings Rehearsal.noParameters
          Rehearsal.failingCluster).2 true := by
  have hreturned : (Rehearsal.threeSteps.run Rehearsed.surroundings Rehearsal.noParameters
      Rehearsal.failingCluster).1.isReturned = true := by decide +kernel
  obtain ⟨pre, test, post, hstages, hmade, -⟩ :=
    run_attempts Rehearsal.threeSteps Rehearsed.surroundings Rehearsal.noParameters none
      (w := Rehearsal.failingCluster) rfl
  exact ⟨pre, test, post, hstages, hreturned ▸ hmade⟩

/-- A test that could start passes exactly if every step has a pod whose run ended well. Otherwise
its errors blame the steps that failed, one each, in the order of the phases and of the steps in
them; the tests are blamed for nothing if the setup failed. -/
theorem run_result {w w₁ w' : World σ} {result : Except TestError Unit} {t' : StagedTest}
    (h : t.prepare env params w = (.returned (.ok profile), w₁))
    (hr : t.run env params w = (.returned (result, t'), w')) :
    ∃ pre test post, (t.synthesizer profile).Stages t.definition pre test post ∧
      Attempt.Made (pre ++ test ++ post) w w' true ∧
      (result = .ok () ↔
        (t.synthesizer profile).Passes t.definition.allSteps (pre ++ test ++ post)) ∧
      (result ≠ .ok () →
        result = .error (.aggregate ((t.synthesizer profile).errors t.definition pre test post))) ∧
      List.Forall₂ (fun x e => (t.synthesizer profile).Blames x.1 x.2 e)
        ((t.synthesizer profile).failures t.definition pre test post)
        ((t.synthesizer profile).errors t.definition pre test post) ∧
      ∀ e ∈ (t.synthesizer profile).errors t.definition pre test post,
        ∀ e' ∈ (t.synthesizer profile).errors t.definition pre test post,
          e.phase? = some .pre → e'.phase? ≠ some .test := by
  have hmarks : w₁.marks = w.marks := (t.prepare_keeps_marks env params w.marks).returned rfl h
  rw [t.run_of_prepare env params profile h] at hr
  obtain ⟨report, w₂, hphases, hreport⟩ := Task.bind_eq_returned hr
  cases hreport
  obtain ⟨_, ⟨pre, test, post, rfl, hstages, -, hreport⟩, hmade⟩ :=
    t.runPhases_shows env profile w₁
  rw [hphases] at hreport hmade
  obtain ⟨hnames, hresult⟩ := hreport report rfl
  refine ⟨pre, test, post, hstages, hmade.of_eq hmarks.symm rfl, ?_, ?_, hstages.blames hnames,
    fun e he e' he' => Synthesizer.errors_exclusive _ _ _ _ _ he he'⟩
  · rw [hresult, ← hstages.errors_eq_nil_iff, Synthesizer.resultOf]
    split
    · rename_i hempty
      exact iff_of_true rfl (List.isEmpty_iff.mp hempty)
    · rename_i hne
      exact iff_of_false (fun hf => nomatch hf) fun hnil => hne (List.isEmpty_iff.mpr hnil)
  · intro hfailed
    rw [hresult, Synthesizer.resultOf] at hfailed ⊢
    split at hfailed
    · exact absurd rfl hfailed
    · rename_i hne
      rw [if_neg hne]
      rfl

theorem run_result_threeSteps : ∃ result t' w',
    Rehearsal.threeSteps.run Rehearsed.surroundings Rehearsal.noParameters
        Rehearsal.failingCluster = (.returned (result, t'), w') ∧
      ∃ pre test post,
        (result = .ok () ↔ (Rehearsal.threeSteps.synthesizer none).Passes
          Rehearsal.threeSteps.definition.allSteps (pre ++ test ++ post)) ∧
        (result ≠ .ok () → result = .error (.aggregate
          ((Rehearsal.threeSteps.synthesizer none).errors Rehearsal.threeSteps.definition
            pre test post))) := by
  have hreturned : (Rehearsal.threeSteps.run Rehearsed.surroundings Rehearsal.noParameters
      Rehearsal.failingCluster).1.isReturned = true := by decide +kernel
  obtain ⟨⟨result, t'⟩, w', hrun⟩ := (Task.isReturned_iff _ _).mp hreturned
  obtain ⟨pre, test, post, -, -, hok, herror, -⟩ :=
    run_result Rehearsal.threeSteps Rehearsed.surroundings Rehearsal.noParameters none
      (w := Rehearsal.failingCluster) rfl hrun
  exact ⟨result, t', w', hrun, pre, test, post, hok, herror⟩

end StagedTest

end StagedTests
