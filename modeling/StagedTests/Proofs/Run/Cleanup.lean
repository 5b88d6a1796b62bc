import StagedTests.Proofs.Cluster.Selector
import StagedTests.Proofs.Run.Deletion
import StagedTests.Proofs.Run.Sweep
import StagedTests.Proofs.Run.Test

/-!
# Cleanup after a cancellation

The creation of a pod looks at the token before it begins, not when it takes effect, so one pod may
be created behind the deletion of a phase. That pod is left, and no other one is: behind it the
token is looked at before anything else is done.
-/

namespace StagedTests

variable {σ : Type}

open StagedTests.Task (Leads)

/-! ## The run of one pod -/

section

variable {env : Surroundings σ} {pod? : σ → String → Option Pod} {selector : String}
  {before log : List Entry} {depth : Nat} {w w' : World σ} (hc : HonestCluster env pod?)

theorem Sweeping.opened (h : Sweeping pod? selector before depth log w) :
    Sweeping pod? selector before (depth + 1) log
      { w with watchers := w.watchers ++ [⟨.cancelObserver, .waiting⟩], closing := false } := by
  obtain ⟨first, hfirst, hwaiting⟩ := h.watcher
  obtain ⟨hzero, -⟩ := List.getElem?_eq_some_iff.mp hfirst
  refine ⟨h.journal, h.selected, h.swept, h.cancelled, h.called, ?_,
    ⟨first, (List.getElem?_append_left hzero).trans hfirst, hwaiting⟩, fun i x hx => ?_⟩
  · simp [h.depth_eq]
  · rcases Nat.lt_or_ge (i + 1) w.watchers.length with hi | hi
    · exact h.others i x ((List.getElem?_append_left hi).symm.trans hx)
    · have hx := (List.getElem?_append_right hi).symm.trans hx
      obtain rfl : x = ⟨.cancelObserver, .waiting⟩ := by
        simpa using List.mem_of_getElem? hx
      rfl

theorem Sweeping.dropped (h : Sweeping pod? selector before (depth + 1) log w)
    (hdepth : 0 < depth) : Sweeping pod? selector before depth log
      { w with watchers := w.watchers.dropLast, closing := false } := by
  obtain ⟨first, hfirst, hwaiting⟩ := h.watcher
  refine ⟨h.journal, h.selected, h.swept, h.cancelled, h.called, ?_, ⟨first, ?_, hwaiting⟩,
    fun i x hx => ?_⟩
  · rw [List.length_dropLast, h.depth_eq, Nat.add_sub_cancel]
  · rw [List.getElem?_dropLast, h.depth_eq, if_pos (by omega), hfirst]
  · dsimp only at hx
    rw [List.getElem?_dropLast] at hx
    split at hx
    · exact h.others i x hx
    · cases hx

/-- What all that is known of a sweep leads to is known of a tidied phase. -/
theorem Tidied.imp {depth' : Nat} (h : Tidied pod? selector before depth w)
    (hcluster : w'.cluster = w.cluster)
    (hs : ∀ log, Sweeping pod? selector before depth log w →
      Sweeping pod? selector before depth' log w') : Tidied pod? selector before depth' w' := by
  rcases h with ⟨log, hw, hlate⟩ | ⟨log, name, hw, hlate, hpod⟩
  · exact .inl ⟨log, hs log hw, hlate⟩
  · exact .inr ⟨log, name, hs log hw, hlate, by rwa [hcluster]⟩

theorem Tidied.note (h : Tidied pod? selector before depth w) {e : Entry}
    (he : e.creation? = none) (he' : e.isCleanup selector = false)
    (hselectors : selectorsIn [e] = []) : Tidied pod? selector before depth (w.note e) :=
  h.of_uneventful (.note w he he' hselectors) fun _ => rfl

theorem Tidied.opened (h : Tidied pod? selector before depth w) :
    Tidied pod? selector before (depth + 1) (World.note
      { w with watchers := w.watchers ++ [⟨.cancelObserver, .waiting⟩], closing := false }
      (.opened .cancelObserver)) :=
  have hopened : Tidied pod? selector before (depth + 1)
      { w with watchers := w.watchers ++ [⟨.cancelObserver, .waiting⟩], closing := false } :=
    h.imp rfl fun _ hs => hs.opened
  hopened.note rfl rfl rfl

theorem Tidied.closing (h : Tidied pod? selector before depth w) (r : Reaction) :
    Tidied pod? selector before depth (World.note { w with closing := true } (.closing r)) :=
  have hclosing : Tidied pod? selector before depth { w with closing := true } :=
    h.of_uneventful (.of_eq rfl rfl rfl rfl) fun _ => rfl
  hclosing.note rfl rfl rfl

include hc in
variable (selector before) in
theorem closeScope_tidied (hdepth : 0 < depth) :
    Leads (Tidied pod? selector before (depth + 1)) (Task.closeScope env .cancelObserver)
      fun _ => Tidied pod? selector before depth :=
  (keptAtPauses_tidied selector before _ hc).closeScope_leads _ (fun _ hw => hw.closing _)
    (fun _ hw _ => hw.imp rfl fun _ hs => hs.dropped hdepth) fun _ hw => hw.note rfl rfl rfl

end

namespace Runner

variable {env : Surroundings σ} {pod? : σ → String → Option Pod} (hc : HonestCluster env pod?)
  (selector : String) (before : List Entry) (depth : Nat) (r : Runner) (p : StepPod)

include hc

theorem create_tidied (hselects : Selector.selects selector p.pod = true) :
    Leads (Swept pod? selector before depth) (create env p) fun _ =>
      Tidied pod? selector before depth := by
  have hkept := keptByEvents_swept selector before depth hc
  have heffect : Leads (Swept pod? selector before depth)
      (Task.effect (.createPod p.pod) (env.pods.create p.pod)) fun reply w =>
        ∀ a, reply = .answered a → Tidied pod? selector before depth w := by
    rintro w reply w' hw heq a rfl
    have hanswer := Task.effect_eq_returned heq
    rcases h : env.pods.create p.pod w.cluster with ⟨⟨e | answer⟩ | _, s⟩
    · rw [World.answer_of_answered _ h] at hanswer
      cases hanswer
      refine .inl (hw.of_uneventful ⟨⟨[_], rfl, rfl, rfl, rfl⟩, fun name x hx => ?_, id, rfl⟩)
      exact (hc.refused _ _ _ _ h name).symm.trans hx
    · rw [World.answer_of_answered _ h] at hanswer
      cases hanswer
      exact hw.create hc hselects h
    · rw [World.answer_of_hangs _ h] at hanswer
      cases hanswer
  refine .bind (Q := fun _ => Tidied pod? selector before depth) ?_ fun answer => ?_
  · refine .bind (.ofKeeps (.change fun w => hkept.called _ w rfl)) fun _ =>
      .bind (.ofKeeps (hkept.pause _)) fun _ => .bind heffect fun reply => ?_
    cases reply with
    | answered a => exact .done fun w hw => hw a rfl
    | hangs => exact .hang env _
  · cases answer <;> exact .done fun _ hw => hw

theorem createOrRestart_tidied (hselects : Selector.selects selector p.pod = true) :
    Leads (Swept pod? selector before depth) (r.createOrRestart env p) fun _ =>
      Tidied pod? selector before depth := by
  have hkept := keptByEvents_swept selector before depth hc
  have hcreate := create_tidied hc selector before depth p hselects
  refine .bind (.ofKeeps (hkept.remove p.within_noSelector.delete)) fun answer => ?_
  cases answer with
  | ok _ =>
    refine .bind (.ofKeeps (hkept.awaitGone r p.within_noSelector.get _)) fun gone => ?_
    cases gone with
    | ok _ => exact hcreate
    | error e => exact .done fun _ hw => .inl hw
  | error e =>
    dsimp only
    split
    · exact hcreate
    · exact .done fun _ hw => .inl hw

/-- Behind a pod that was missed nothing more is done: the token is looked at first. -/
theorem watch_tidied (n : Nat) (t : Tracker) :
    Leads (Tidied pod? selector before depth) (r.watch env p n t) fun _ =>
      Tidied pod? selector before depth := by
  rintro w result w' (hw | hw) h
  · exact .inl (((keptByEvents_swept selector before depth hc).watch r
      p.within_noSelector.get n t).returned hw h)
  · have hpass := (keptAtPauses_missed selector before depth hc).pass .checking w hw
    cases n with
    | zero => cases h
    | succ n =>
      have hrace : Task.race env (Task.call env (.getPod p.name) (env.pods.get p.name)) w =
          (.returned none, (Task.pass env .checking w).2) := by
        rw [Task.race_eq, if_pos hpass.isCancelled]
      have hwatch : r.watch env p (n + 1) t w = r.cancelled p (Task.pass env .checking w).2 :=
        Task.bind_of_returned _ hrace
      rw [hwatch] at h
      cases h
      exact .inr hpass

theorem isCancelled_tidied : Leads (Tidied pod? selector before depth) (Task.isCancelled env)
    fun cancelled w => Tidied pod? selector before depth w ∧
      (cancelled = false → Swept pod? selector before depth w) := by
  refine .bind (.ofKeeps ((keptAtPauses_tidied selector before depth hc).pass .checking)) fun _ =>
    .look fun w hw => ⟨hw, fun hcancelled => hw.resolve_right fun hmissed => ?_⟩
  rw [hmissed.isCancelled] at hcancelled
  cases hcancelled

omit hc in
theorem report_tidied (result : Except ExecutionError Unit) :
    Leads (Tidied pod? selector before depth) (report result) fun _ =>
      Tidied pod? selector before depth := by
  cases result with
  | ok _ => exact .done fun _ hw => hw
  | error e => exact .change fun _ hw => hw.note rfl rfl rfl

theorem run_tidied (hdepth : 0 < depth) (hdry : r.dry = false)
    (hselects : Selector.selects selector p.pod = true) :
    Leads (Tidied pod? selector before depth) (r.run env p) fun _ =>
      Tidied pod? selector before depth := by
  unfold run
  simp only [hdry, if_false, Bool.false_eq_true]
  refine .bind (isCancelled_tidied hc selector before depth) fun cancelled => ?_
  cases cancelled with
  | true => exact .bind (.look fun _ hw => hw.1) fun _ => .done fun _ hw => hw
  | false =>
    refine .bind ((createOrRestart_tidied hc selector before depth r p hselects).weaken
      (fun _ hw => hw.2 rfl) fun _ _ hw => hw) fun created => ?_
    cases created with
    | error e => exact .done fun _ hw => hw
    | ok _ =>
      exact .bind (.change fun _ hw => hw.opened) fun _ =>
        .bind (watch_tidied hc selector before (depth + 1) r p _ _) fun result =>
          .bind (closeScope_tidied selector before hc hdepth) fun _ =>
            .bind (report_tidied selector before depth result) fun _ => .done fun _ hw => hw

theorem attempt_tidied (hdepth : 0 < depth) (hdry : r.dry = false)
    (hselects : Selector.selects selector p.pod = true) (text : String) :
    Leads (Tidied pod? selector before depth) (r.attempt env text p) fun _ =>
      Tidied pod? selector before depth := by
  refine .bind (Q := fun _ => Tidied pod? selector before depth) (.change fun w hw => ?_)
    fun _ => .bind (run_tidied hc selector before depth r p hdepth hdry hselects) fun result => ?_
  · exact hw.of_uneventful ⟨⟨[.began p], rfl, rfl, rfl, rfl⟩, fun _ _ h => h, id, rfl⟩ fun _ => rfl
  · refine .bind (Q := fun _ => Tidied pod? selector before depth) (.change fun w hw => ?_)
      fun _ => .bind (.look fun _ hw => hw) fun _ => .done fun _ hw => hw
    exact hw.note rfl rfl rfl

theorem runAll_tidied (hdepth : 0 < depth) (hdry : r.dry = false) (policy : Policy)
    (description : String) {pods : List StepPod}
    (hselects : ∀ p ∈ pods, Selector.selects selector p.pod = true) :
    Leads (Tidied pod? selector before depth) (r.runAll env policy description pods) fun _ =>
      Tidied pod? selector before depth :=
  r.runAll_leads policy description fun p hp text =>
    attempt_tidied hc selector before depth r p hdepth hdry (hselects p hp) text

end Runner

/-! ## The scope of a phase -/

/-- At most one pod was created behind the deletion, and it is there. Once the deletion has come, no
other pod that the phase has created is, and it came where it was called for. -/
def Left (pod? : σ → String → Option Pod) (selector : String) (before : List Entry)
    (w : World σ) : Prop :=
  ∃ log, w.journal = before ++ log ∧ (createdLate selector log).length ≤ 1 ∧
    (∀ name ∈ createdLate selector log, pod? w.cluster name ≠ none) ∧
    (cleanedIn selector log = true → ∀ name ∈ createdIn log, pod? w.cluster name ≠ none →
      name ∈ createdLate selector log) ∧
    (selector ∈ selectorsIn log → cleanedIn selector log = true)

section

variable {env : Surroundings σ} {pod? : σ → String → Option Pod} {selector : String}
  {before : List Entry} {w w' : World σ}

theorem left_of_nothing (hjournal : w.journal = before) : Left pod? selector before w :=
  ⟨[], by rw [hjournal, List.append_nil], Nat.zero_le _, (fun _ h => nomatch h),
    (fun h => nomatch h), fun h => nomatch h⟩

theorem Tidied.left {depth : Nat} (h : Tidied pod? selector before depth w) :
    Left pod? selector before w := by
  rcases h with ⟨log, hs, hlate⟩ | ⟨log, name, hs, hlate, hpod⟩
  · refine ⟨log, hs.journal, ?_, ?_, hs.swept, hs.called⟩ <;> rw [hlate]
    · exact Nat.zero_le _
    · exact fun _ h => nomatch h
  · refine ⟨log, hs.journal, ?_, ?_, hs.swept, hs.called⟩ <;> rw [hlate]
    · exact Nat.le_refl _
    · exact List.forall_mem_singleton.mpr hpod

theorem Left.closed (h : Left pod? selector before w) (r : Reaction) :
    Left pod? selector before (w.note (.closed r)) := by
  obtain ⟨log, hjournal, hlength, hthere, hgone, hcalled⟩ := h
  have hlate : createdLate selector (log ++ [.closed r]) = createdLate selector log :=
    createdLate_append_of_uneventful log rfl rfl
  have hcreated : createdIn (log ++ [.closed r]) = createdIn log :=
    (createdIn_append _ _).trans (List.append_nil _)
  have hcleaned : cleanedIn selector (log ++ [.closed r]) = cleanedIn selector log :=
    (cleanedIn_append _ _).trans (Bool.or_false _)
  have hselectors : selectorsIn (log ++ [.closed r]) = selectorsIn log :=
    (selectorsIn_append _ _).trans (List.append_nil _)
  refine ⟨log ++ [.closed r], ?_, ?_, ?_, ?_, ?_⟩
  · simp [World.note, hjournal]
  · rwa [hlate]
  · rwa [hlate]
  · rwa [hlate, hcreated, hcleaned]
  · rwa [hselectors, hcleaned]

theorem closeScope_left (hc : HonestCluster env pod?) (selector : String) (before : List Entry) :
    Leads (Tidied pod? selector before 1) (Task.closeScope env (.deletePods selector))
      fun _ => Left pod? selector before :=
  (keptAtPauses_tidied selector before 1 hc).closeScope_leads _ (fun _ hw => hw.closing _)
    (fun _ hw _ => hw.left) fun _ hw => hw.closed _

end

namespace Runner

variable {env : Surroundings σ} {pod? : σ → String → Option Pod} (hc : HonestCluster env pod?)
  (before : List Entry) (r : Runner)
include hc

theorem runPods_left (hdry : r.dry = false) (policy : Policy) (description : String)
    {pods : List StepPod}
    (hselects : ∀ p ∈ pods, Selector.selects (testSelector r.test) p.pod = true) :
    Leads (fun w => w.journal = before ∧ w.watchers = [])
      (r.runPods env policy description pods) fun _ => Left pod? (testSelector r.test) before := by
  unfold runPods
  simp only [hdry, if_false, Bool.false_eq_true]
  refine .bind (Q := fun _ => Tidied pod? (testSelector r.test) before 1) (.change ?_)
    fun _ => .bind (runAll_tidied hc _ before 1 r Nat.one_pos hdry policy description hselects)
      fun _ => .bind (closeScope_left hc _ before) fun _ => .done fun _ hw => hw
  rintro w ⟨hjournal, hwatchers⟩
  refine .inl ⟨[.opened (.deletePods (testSelector r.test))], ⟨?_, ?_, ?_, ?_, ?_, ?_, ?_, ?_⟩, rfl⟩
  · exact congrArg (· ++ _) hjournal
  · exact fun _ h => nomatch h
  · exact fun h => nomatch h
  · exact fun h => nomatch h
  · exact fun h => nomatch h
  · simp [hwatchers, World.note]
  · exact ⟨.waiting, by simp [hwatchers, World.note], fun _ => rfl⟩
  · intro i x hx
    simp [hwatchers, World.note] at hx

theorem runPhase_left {s : Synthesizer} (hdry : r.dry = false) (hr : r.test = s.test)
    (hname : Selector.Expressible s.test) (description : String) (phase : Phase)
    (steps : List Step) :
    Leads (fun w => w.journal = before ∧ w.watchers = [])
      (r.runPhase env s description phase steps) fun _ =>
        Left pod? (testSelector r.test) before := by
  have hnothing : ∀ w, w.journal = before ∧ w.watchers = [] →
      Left pod? (testSelector r.test) before w := fun w hw => left_of_nothing hw.1
  unfold runPhase
  by_cases hfaults : s.faults steps = []
  · obtain ⟨pods, hpods, hmakes⟩ := s.generatePods_of_no_faults hfaults
    rw [hpods]
    cases pods with
    | nil => exact .done hnothing
    | cons p rest =>
      refine .bind (runPods_left hc before r hdry _ description fun q hq => ?_) fun _ =>
        .done fun _ hw => hw
      rw [hr]
      exact (Selector.selects_testSelector hname q.pod).mpr (hmakes.label q hq)
  · rw [s.generatePods_of_faults hfaults]
    exact .done hnothing

end Runner

namespace Rehearsal

/-- A cluster in memory where the token is cancelled while the creation of a pod is under way. The
watcher of the phase gets its turn before the creation takes effect. -/
def lateCreation : Surroundings PodStore where
  pods := PodStore.client
  secrets := ⟨fun _ s => (.hangs, s), fun _ s => (.hangs, s), fun _ s => (.hangs, s)⟩
  clock := fun s => s.now
  meanwhile := fun m _ s =>
    match m with
    | .calling (.createPod _) => (⟨true, [.cancel "stop", .turn 0]⟩, s)
    | _ => (⟨false, []⟩, s)
  patience := 10

theorem honest_lateCreation : HonestCluster lateCreation PodStore.pod? := by
  refine PodStore.honestCluster rfl fun m n s => ?_
  cases m with
  | calling c => cases c <;> rfl
  | checking | sleeping | hanging | filing | closing => rfl

def emptyCluster : World PodStore := .start { now := now } .fresh .empty

theorem runPhase_lateCreation_returned : ∃ report w',
    threeSteps.runPhase lateCreation none .test emptyCluster = (.returned report, w') :=
  (Task.isReturned_iff _ _).mp (by decide +kernel)

end Rehearsal

namespace StagedTest

variable {env : Surroundings σ} {pod? : σ → String → Option Pod}

/-- Where the token is cancelled before the scope of a phase begins to close, the deletion is called
for, or the phase has created nothing. -/
theorem runPhase_called (t : StagedTest) (hdry : t.dry = false) (profile : Option ProfileSetting)
    (phase : Phase) {w w' : World σ} {report : PhaseReport} (hw : w.watchers = [])
    (h : t.runPhase env profile phase w = (.returned report, w')) {log : List Entry}
    (hjournal : w'.journal = w.journal ++ log)
    (hcancelled : (tokenAfter w.token
      (untilClosing (.deletePods (testSelector t.name)) log)).isCancelled = true) :
    createdIn log = [] ∨ testSelector t.name ∈ selectorsIn log := by
  by_cases hnone : ∀ pods,
      (t.synthesizer profile).generatePods (t.definition.steps phase) = .ok pods → pods = []
  · obtain ⟨report', heq⟩ := t.runPhase_of_no_pods env profile phase hnone w
    rw [h] at heq
    cases heq
    obtain rfl := List.append_right_eq_self.mp hjournal.symm
    exact .inl rfl
  · push Not at hnone
    obtain ⟨pods, hpods, hsome⟩ := hnone
    obtain ⟨-, log', hjournal', -, hdeletes⟩ :=
      t.runPhase_deletes env profile phase hdry hpods hsome hw h
    obtain rfl := List.append_cancel_left (hjournal.symm.trans hjournal')
    rw [hdeletes.deleted hcancelled]
    exact .inr (List.mem_singleton_self _)

/-- A phase creates at most one pod behind the deletion of its pods. That deletion comes where the
token is cancelled before the scope of the phase begins to close, and it may come where it is
cancelled while the scope closes. Where it comes, a pod that the phase has created is left exactly
if it was created behind the deletion, so no pod is left exactly if none was. -/
theorem runPhase_leftovers (hc : HonestCluster env pod?) (t : StagedTest) (hdry : t.dry = false)
    (hname : Selector.Expressible t.name) (profile : Option ProfileSetting) (phase : Phase)
    {w w' : World σ} {report : PhaseReport} (hw : w.watchers = [])
    (h : t.runPhase env profile phase w = (.returned report, w')) :
    ∃ log, w'.journal = w.journal ++ log ∧
      (createdLate (testSelector t.name) log).length ≤ 1 ∧
      ((tokenAfter w.token
            (untilClosing (.deletePods (testSelector t.name)) log)).isCancelled = true ∨
          cleanedIn (testSelector t.name) log = true →
        (∀ name ∈ createdIn log,
          pod? w'.cluster name ≠ none ↔ name ∈ createdLate (testSelector t.name) log) ∧
        ((∀ name ∈ createdIn log, pod? w'.cluster name = none) ↔
          createdLate (testSelector t.name) log = [])) := by
  obtain ⟨log, hjournal, hlength, hthere, hgone, hcalled⟩ :=
    Runner.runPhase_left hc w.journal t.runner (s := t.synthesizer profile) hdry rfl hname
      t.description phase (t.definition.steps phase) w report w' ⟨rfl, hw⟩ h
  refine ⟨log, hjournal, hlength, fun hcancelled => ?_⟩
  have hcleaned : createdIn log = [] ∨ cleanedIn (testSelector t.name) log = true := by
    rcases hcancelled with hcancelled | hcleaned
    · exact (t.runPhase_called hdry profile phase hw h hjournal hcancelled).imp_right hcalled
    · exact .inr hcleaned
  have hleft : ∀ name ∈ createdIn log,
      pod? w'.cluster name ≠ none ↔ name ∈ createdLate (testSelector t.name) log := by
    intro name hcreated
    refine ⟨fun hpod => ?_, hthere name⟩
    rcases hcleaned with hnothing | hcleaned
    · rw [hnothing] at hcreated
      cases hcreated
    · exact hgone hcleaned name hcreated hpod
  refine ⟨hleft, fun hnone => ?_, fun hnil name hcreated => ?_⟩
  · refine List.eq_nil_iff_forall_not_mem.mpr fun name hlate => hthere name hlate ?_
    exact hnone name (createdLate_subset log hlate)
  · have hlate : ¬ name ∈ createdLate (testSelector t.name) log := by
      rw [hnil]
      exact List.not_mem_nil
    exact not_not.mp (mt (hleft name hcreated).mp hlate)

open Rehearsal (threeSteps lateCreation emptyCluster honest_lateCreation
  runPhase_lateCreation_returned)

theorem runPhase_leftovers_lateCreation : ∃ report w',
    threeSteps.runPhase lateCreation none .test emptyCluster = (.returned report, w') ∧
    ∃ log, w'.journal = emptyCluster.journal ++ log ∧
      (∀ name ∈ createdIn log,
        w'.cluster.pod? name ≠ none ↔ name ∈ createdLate (testSelector threeSteps.name) log) := by
  obtain ⟨report, w', h⟩ := runPhase_lateCreation_returned
  obtain ⟨log, hjournal, -, hleft⟩ := runPhase_leftovers honest_lateCreation threeSteps rfl
    (by decide) none .test (w := emptyCluster) rfl h
  have hlog : log = (threeSteps.runPhase lateCreation none .test emptyCluster).2.journal := by
    rw [h]
    exact hjournal.symm
  have hcancelled : (tokenAfter emptyCluster.token
      (untilClosing (.deletePods (testSelector threeSteps.name)) log)).isCancelled = true := by
    rw [hlog]
    decide +kernel
  exact ⟨report, w', h, log, hjournal, (hleft (.inl hcancelled)).1⟩

/-- It is not so that a cancelled phase leaves none of the pods that it has created. -/
theorem not_forall_runPhase_cleaned :
    ¬ ∀ (env : Surroundings PodStore) (t : StagedTest) (profile : Option ProfileSetting)
      (phase : Phase) (w w' : World PodStore) (report : PhaseReport) (log : List Entry),
      HonestCluster env PodStore.pod? → t.dry = false → Selector.Expressible t.name →
      w.watchers = [] → w.token.isCancelled = false →
      t.runPhase env profile phase w = (.returned report, w') →
      w'.token.isCancelled = true → w'.journal = w.journal ++ log →
      ∀ name ∈ createdIn log, w'.cluster.pod? name = none := by
  intro hall
  obtain ⟨report, w', h⟩ := runPhase_lateCreation_returned
  have hw' : w' = (threeSteps.runPhase lateCreation none .test emptyCluster).2 := by rw [h]
  have hnone := hall lateCreation threeSteps none .test emptyCluster w' report w'.journal
    honest_lateCreation rfl (by decide) rfl rfl h (by rw [hw']; decide +kernel) rfl "e2e-probe"
    (by rw [hw']; decide +kernel)
  have hthere : (w'.cluster.pod? "e2e-probe").isSome = true := by
    rw [hw']
    decide +kernel
  rw [hnone] at hthere
  cases hthere

end StagedTest

end StagedTests
