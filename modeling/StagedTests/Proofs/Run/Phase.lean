import StagedTests.Proofs.Run.Attempt

/-!
# The attempts of a phase

A phase whose steps all have a pod attempts these in their order, up to the first failure or to the
end as its policy says; any other phase attempts nothing. Its errors are those of the steps that
have no pod, or else those of the attempts that failed.
-/

namespace StagedTests

variable {σ : Type}

namespace Policy

theorem reaches_nil (policy : Policy) : policy.Reaches [] [] := by
  cases policy with
  | shortCircuit => exact .inl ⟨rfl, fun _ h => nomatch h⟩
  | runAll => rfl

theorem Reaches.cons_ok {policy : Policy} {pods : List StepPod} {as : List Attempt}
    (h : policy.Reaches pods as) (p : StepPod) :
    policy.Reaches (p :: pods) (⟨p, .ok ()⟩ :: as) := by
  cases policy with
  | runAll => exact congrArg (p :: ·) h
  | shortCircuit =>
    rcases h with ⟨hpods, hok⟩ | ⟨passed, failed, rest, rfl, hok, hfailed, hpods⟩
    · exact .inl ⟨congrArg (p :: ·) hpods, List.forall_mem_cons.mpr ⟨rfl, hok⟩⟩
    · exact .inr ⟨⟨p, .ok ()⟩ :: passed, failed, rest, rfl, List.forall_mem_cons.mpr ⟨rfl, hok⟩,
        hfailed, congrArg (p :: ·) hpods⟩

theorem reaches_failure {a : Attempt} (h : a.result ≠ .ok ()) (rest : List StepPod) :
    shortCircuit.Reaches (a.pod :: rest) [a] :=
  .inr ⟨[], a, rest, rfl, fun _ h => (nomatch h), h, rfl⟩

theorem reaches_passes (policy : Policy) (pods : List StepPod) :
    policy.Reaches pods (pods.map fun p => ⟨p, .ok ()⟩) := by
  induction pods with
  | nil => exact policy.reaches_nil
  | cons p rest ih => exact ih.cons_ok p

/-- The pods are attempted in their order, and none of them is left out on the way. -/
theorem Reaches.isPrefix {policy : Policy} {pods : List StepPod} {as : List Attempt}
    (h : policy.Reaches pods as) : as.map (·.pod) <+: pods := by
  cases policy with
  | runAll => exact h ▸ List.prefix_rfl
  | shortCircuit =>
    rcases h with ⟨hpods, -⟩ | ⟨_, _, rest, -, -, -, hpods⟩
    · exact hpods ▸ List.prefix_rfl
    · exact ⟨rest, hpods.symm⟩

theorem Reaches.map_pod_of_ok {policy : Policy} {pods : List StepPod} {as : List Attempt}
    (h : policy.Reaches pods as) (hok : ∀ a ∈ as, a.result = .ok ()) : as.map (·.pod) = pods := by
  cases policy with
  | runAll => exact h
  | shortCircuit =>
    rcases h with ⟨hpods, -⟩ | ⟨passed, failed, rest, rfl, -, hfailed, -⟩
    · exact hpods
    · exact absurd (hok failed (by simp)) hfailed

end Policy

namespace Runner

variable (r : Runner) (env : Surroundings σ)

/-- What the pods of a phase come to: the attempts that its policy makes, and their errors. -/
def Plays (policy : Policy) (pods : List StepPod) (as : List Attempt)
    (errors : Option (List ExecutionError)) : Prop :=
  policy.Reaches pods as ∧ (∀ a ∈ as, r.Names a.pod a.result) ∧
    ∀ es, errors = some es → es = Attempt.failures as

section

variable {r} {pods : List StepPod} {as : List Attempt} {p : StepPod} {e : ExecutionError}

theorem Plays.cons_ok {policy : Policy} {errors : Option (List ExecutionError)}
    (h : r.Plays policy pods as errors) (p : StepPod) :
    r.Plays policy (p :: pods) (⟨p, .ok ()⟩ :: as) errors := by
  obtain ⟨hreach, hnames, herrors⟩ := h
  exact ⟨hreach.cons_ok p, List.forall_mem_cons.mpr ⟨r.names_ok p, hnames⟩, herrors⟩

theorem Plays.cons_error {errors : Option (List ExecutionError)}
    (h : r.Plays .runAll pods as errors) (he : r.Names p (.error e)) :
    r.Plays .runAll (p :: pods) (⟨p, .error e⟩ :: as) (errors.map (e :: ·)) := by
  obtain ⟨hreach, hnames, herrors⟩ := h
  refine ⟨congrArg (p :: ·) hreach, List.forall_mem_cons.mpr ⟨he, hnames⟩, fun es hes => ?_⟩
  obtain ⟨more, hmore, rfl⟩ := Option.map_eq_some_iff.mp hes
  exact congrArg (e :: ·) (herrors more hmore)

theorem plays_failure (he : r.Names p (.error e)) (rest : List StepPod) :
    r.Plays .shortCircuit (p :: rest) [⟨p, .error e⟩] (some [e]) := by
  refine ⟨Policy.reaches_failure (by simp) rest, List.forall_mem_singleton.mpr he, ?_⟩
  rintro _ ⟨⟩
  rfl

end

theorem plays_passes (policy : Policy) (pods : List StepPod) :
    r.Plays policy pods (pods.map fun p => ⟨p, .ok ()⟩) none := by
  refine ⟨policy.reaches_passes pods, ?_, fun _ h => nomatch h⟩
  rintro _ ha
  obtain ⟨p, -, rfl⟩ := List.mem_map.mp ha
  exact r.names_ok p

/-- Whatever comes of a pod, the phase has a way to go on. -/
theorem plays_on (policy : Policy) {p : StepPod} {result : Except ExecutionError Unit}
    (h : r.Names p result) (rest : List StepPod) :
    ∃ bs, r.Plays policy (p :: rest) (⟨p, result⟩ :: bs) none := by
  have hrest := r.plays_passes policy rest
  cases result with
  | ok _ => exact ⟨_, hrest.cons_ok p⟩
  | error e =>
    cases policy with
    | runAll => exact ⟨_, hrest.cons_error h⟩
    | shortCircuit =>
      obtain ⟨hreach, hnames, -⟩ := plays_failure h rest
      exact ⟨[], hreach, hnames, fun _ h => nomatch h⟩

theorem runAll_shows (policy : Policy) (description : String) (pods : List StepPod) (w : World σ) :
    (r.runAll env policy description pods).Shows w fun as o =>
      r.Plays policy pods as (o.map (·.1)) := by
  induction pods generalizing w with
  | nil =>
    refine .done ⟨policy.reaches_nil, (fun _ h => nomatch h), ?_⟩
    rintro _ ⟨⟩
    rfl
  | cons p rest ih =>
    refine .bind (r.attempt_shows env p _ w) ?_ ?_
    · rintro _ ⟨result, cases⟩ w₁ - ⟨_, rfl, hnames, heq⟩
      obtain rfl := heq _ rfl
      cases result with
      | ok _ =>
        refine .bind (ih w₁) (fun as x _ _ hplays => .done ?_) fun as _ hplays => ⟨[], ?_⟩
        · simpa using hplays.cons_ok p
        · simpa using hplays.cons_ok p
      | error e =>
        cases policy with
        | shortCircuit => exact .done (plays_failure hnames rest)
        | runAll =>
          refine .bind (ih w₁) (fun as x _ _ hplays => .done ?_) fun as _ hplays => ⟨[], ?_⟩
          · simpa using hplays.cons_error hnames
          · simpa using hplays.cons_error hnames
    · rintro _ - ⟨result, rfl, hnames, -⟩
      exact r.plays_on policy hnames rest

theorem runPods_shows (policy : Policy) (description : String) (pods : List StepPod)
    (w : World σ) : (r.runPods env policy description pods).Shows w fun as o =>
      r.Plays policy pods as (o.map (·.1)) := by
  unfold runPods
  split
  · exact r.runAll_shows env policy description pods w
  · have hkept := keptByRuns_marks env
    refine .quiet (.change ((hkept _).opened _)) (fun _ w₁ _ => ?_)
      ⟨_, r.plays_passes policy pods⟩
    refine .bind (r.runAll_shows env policy description pods w₁) (fun as x w₂ _ hplays => ?_)
      fun as _ hplays => ⟨[], by simpa using hplays⟩
    obtain ⟨hreach, hnames, herrors⟩ := hplays
    refine .quiet ((hkept _).closeScope _) (fun _ _ _ => .done ?_)
      ⟨[], ?_⟩
    · rw [List.append_nil]
      exact ⟨hreach, hnames, herrors⟩
    · rw [List.append_nil]
      exact ⟨hreach, hnames, fun _ h => nomatch h⟩

end Runner

/-! ## The errors of a phase -/

namespace Synthesizer

variable (s : Synthesizer)

/-- The errors of a phase: one for every step that has no pod, or one for every attempt that
failed. -/
def phaseErrors (phase : Phase) (steps : List Step) (as : List Attempt) : List TestError :=
  (s.faults steps).map (fun e => .inPhase s.test phase (.synthesis e)) ++
    (Attempt.failures as).map fun e => .inPhase s.test phase (.execution e)

/-- The steps to which a phase owes its errors: those that have no pod, or else those of the
attempts that failed. -/
def failed (steps : List Step) (as : List Attempt) : List Step :=
  match steps.filter fun step => (errorOf? (s.generatePod step)).isSome with
  | [] => ((steps.zip as).filter fun x => (errorOf? x.2.result).isSome).map (·.1)
  | unmade => unmade

/-- The error blames a step: it names the test and the phase, and has one source, which names the
step and its pod. -/
def Blames (phase : Phase) (step : Step) (e : TestError) : Prop :=
  (∃ fault, e = .inPhase s.test phase (.synthesis ⟨step.name, s.podName step, fault⟩)) ∨
    ∃ fault, e = .inPhase s.test phase (.execution ⟨s.test, step.name, s.podName step, fault⟩)

def Names (as : List Attempt) : Prop :=
  ∀ a ∈ as, ∀ e, a.result = .error e → ∃ fault, e = ⟨s.test, a.pod.step, a.pod.name, fault⟩

variable {s} {policy : Policy} {steps : List Step} {as : List Attempt}

theorem Makes.of_passes (h : s.Passes steps as) : s.Makes steps (as.map (·.pod)) :=
  List.forall₂_map_right_iff.mpr (h.imp fun _ _ hp => hp.1)

theorem Passes.result_ok (h : s.Passes steps as) : ∀ a ∈ as, a.result = .ok () := by
  induction h with
  | nil => exact fun _ h => nomatch h
  | cons hp _ ih => exact List.forall_mem_cons.mpr ⟨hp.2, ih⟩

/-- If every step has a pod and no attempt failed, all of them were attempted. -/
theorem Attempts.passes (h : s.Attempts policy steps as) (hfaults : s.faults steps = [])
    (hok : ∀ a ∈ as, a.result = .ok ()) : s.Passes steps as := by
  rcases h with ⟨-, hunmade⟩ | ⟨pods, hmakes, hreach⟩
  · exact absurd hfaults ((s.faults_ne_nil_iff steps).mpr hunmade)
  · rw [← hreach.map_pod_of_ok hok] at hmakes
    have hpods := List.forall₂_map_right_iff.mp hmakes
    exact List.forall₂_iff_get.mpr ⟨hpods.length_eq, fun i hi hj =>
      ⟨hpods.get hi hj, hok _ (List.get_mem _ _)⟩⟩

/-- A phase has no errors where it passed. -/
theorem Attempts.phaseErrors_eq_nil_iff (h : s.Attempts policy steps as) (phase : Phase) :
    s.phaseErrors phase steps as = [] ↔ s.Passes steps as := by
  rw [phaseErrors, List.append_eq_nil_iff, List.map_eq_nil_iff, List.map_eq_nil_iff,
    Attempt.failures_eq_nil_iff]
  exact ⟨fun ⟨hfaults, hok⟩ => h.passes hfaults hok,
    fun hpasses => ⟨(Makes.of_passes hpasses).faults_eq_nil, hpasses.result_ok⟩⟩

theorem failed_of_unmade (hfaults : s.faults steps ≠ []) :
    s.failed steps as = steps.filter fun step => (errorOf? (s.generatePod step)).isSome := by
  have hne : (steps.filter fun step => (errorOf? (s.generatePod step)).isSome) ≠ [] := by
    obtain ⟨step, hstep, e, he⟩ := (s.faults_ne_nil_iff steps).mp hfaults
    exact List.ne_nil_of_mem (List.mem_filter.mpr ⟨hstep, by rw [he]; rfl⟩)
  unfold failed
  split
  · rename_i hnil
    exact absurd hnil hne
  · rfl

theorem failed_of_makes {pods : List StepPod} (h : s.Makes steps pods) :
    s.failed steps as =
      ((steps.zip as).filter fun x => (errorOf? x.2.result).isSome).map (·.1) := by
  have hnil : (steps.filter fun step => (errorOf? (s.generatePod step)).isSome) = [] := by
    refine List.filter_eq_nil_iff.mpr fun step hstep => ?_
    obtain ⟨p, hp⟩ := (s.faults_eq_nil_iff steps).mp h.faults_eq_nil step hstep
    rw [hp]
    exact Bool.false_ne_true
  rw [failed, hnil]

theorem blames_faults (phase : Phase) (steps : List Step) :
    List.Forall₂ (s.Blames phase)
      (steps.filter fun step => (errorOf? (s.generatePod step)).isSome)
      ((s.faults steps).map fun e => .inPhase s.test phase (.synthesis e)) := by
  induction steps with
  | nil => exact .nil
  | cons step rest ih =>
    have hnames := s.generatePod_names step
    cases h : s.generatePod step with
    | ok p => simpa [faults, h, errorOf?] using ih
    | error e =>
      rw [h] at hnames
      obtain ⟨hstep, hpod⟩ := hnames
      have hblames : s.Blames phase step (.inPhase s.test phase (.synthesis e)) :=
        .inl ⟨e.fault, by rw [← hstep, ← hpod]⟩
      simpa [faults, h, errorOf?] using List.Forall₂.cons hblames ih

theorem blames_failures {pods : List StepPod} (hmakes : s.Makes steps pods)
    (hpre : as.map (·.pod) <+: pods) (hnames : s.Names as) (phase : Phase) :
    List.Forall₂ (s.Blames phase)
      (((steps.zip as).filter fun x => (errorOf? x.2.result).isSome).map (·.1))
      ((Attempt.failures as).map fun e => .inPhase s.test phase (.execution e)) := by
  induction hmakes generalizing as with
  | nil =>
    obtain rfl : as = [] := List.map_eq_nil_iff.mp (List.prefix_nil.mp hpre)
    exact .nil
  | @cons step p rest pods hp _ ih =>
    cases as with
    | nil => exact .nil
    | cons a as =>
      obtain ⟨rfl, hrest⟩ := List.cons_prefix_cons.mp hpre
      have htail := ih hrest (fun b hb => hnames b (List.mem_cons_of_mem _ hb))
      rcases a with ⟨p, result⟩
      cases result with
      | ok _ => simpa [Attempt.failures, errorOf?] using htail
      | error e =>
        obtain ⟨fault, he⟩ := hnames _ List.mem_cons_self e rfl
        have hpod := s.generatePod_names step
        rw [hp] at hpod
        have hblames : s.Blames phase step (.inPhase s.test phase (.execution e)) :=
          .inr ⟨fault, by rw [he, hpod.1, hpod.2]⟩
        simpa [Attempt.failures, errorOf?] using List.Forall₂.cons hblames htail

/-- The errors of a phase blame the steps that failed, one each and in their order. -/
theorem Attempts.blames (h : s.Attempts policy steps as) (hnames : s.Names as) (phase : Phase) :
    List.Forall₂ (s.Blames phase) (s.failed steps as) (s.phaseErrors phase steps as) := by
  rcases h with ⟨rfl, hunmade⟩ | ⟨pods, hmakes, hreach⟩
  · rw [failed_of_unmade ((s.faults_ne_nil_iff steps).mpr hunmade), phaseErrors]
    exact (List.append_nil _).symm ▸ s.blames_faults phase steps
  · rw [failed_of_makes hmakes, phaseErrors, hmakes.faults_eq_nil]
    exact blames_failures hmakes hreach.isPrefix hnames phase

end Synthesizer

namespace Runner

variable (r : Runner) (env : Surroundings σ) (s : Synthesizer)

theorem runPhase_shows (hr : r.test = s.test) (description : String) (phase : Phase)
    (steps : List Step) (w : World σ) :
    (r.runPhase env s description phase steps).Shows w fun as o =>
      s.Attempts (Policy.ofPhase phase) steps as ∧ s.Names as ∧
        ∀ report, o = some report → report.errors = s.phaseErrors phase steps as := by
  unfold runPhase
  by_cases hfaults : s.faults steps = []
  · obtain ⟨pods, hpods, hmakes⟩ := s.generatePods_of_no_faults hfaults
    have hplayed : ∀ as errors, r.Plays (Policy.ofPhase phase) pods as errors →
        s.Attempts (Policy.ofPhase phase) steps as ∧ s.Names as := by
      rintro as errors ⟨hreach, hnames, -⟩
      refine ⟨.inr ⟨pods, hmakes, hreach⟩, fun a ha e he => ?_⟩
      obtain ⟨fault, rfl⟩ := hnames a ha e he
      exact ⟨fault, by rw [error, hr]⟩
    rw [hpods]
    cases pods with
    | nil =>
      obtain ⟨hattempts, hnames⟩ := hplayed [] (some [])
        ⟨(Policy.ofPhase phase).reaches_nil, List.forall_mem_nil _, by rintro _ ⟨⟩; rfl⟩
      refine .done ⟨hattempts, hnames, ?_⟩
      rintro _ ⟨⟩
      simp [Synthesizer.phaseErrors, hfaults, Attempt.failures]
    | cons p rest =>
      refine .bind (r.runPods_shows env _ description (p :: rest) w) ?_ ?_
      · rintro as ⟨errors, cases⟩ _ - hplays
        obtain ⟨hattempts, hnames⟩ := hplayed _ _ hplays
        refine .done ?_
        rw [List.append_nil]
        refine ⟨hattempts, hnames, ?_⟩
        rintro _ ⟨⟩
        obtain rfl := hplays.2.2 _ rfl
        simp [Synthesizer.phaseErrors, hfaults, hr]
      · intro as _ hplays
        obtain ⟨hattempts, hnames⟩ := hplayed _ _ hplays
        exact ⟨[], by rw [List.append_nil]; exact ⟨hattempts, hnames, by simp⟩⟩
  · rw [s.generatePods_of_faults hfaults]
    refine .done ⟨.inl ⟨rfl, (s.faults_ne_nil_iff steps).mp hfaults⟩, List.forall_mem_nil _, ?_⟩
    rintro _ ⟨⟩
    simp [Synthesizer.phaseErrors, Attempt.failures, hr]

end Runner

end StagedTests
