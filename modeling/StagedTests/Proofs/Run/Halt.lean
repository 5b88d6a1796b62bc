import StagedTests.Proofs.Run.Attempt
import StagedTests.Proofs.Run.Layers
import StagedTests.Proofs.Run.Log

/-!
# What is still done behind a cancellation

The run of a pod looks at the token when it begins and while the pod is watched, but not between the
deletion of a pod that is left over and the creation of the new one. So the run that is in progress
when the token is cancelled may still create its pod; runs that begin later make no calls.
-/

namespace StagedTests

variable {σ : Type}

namespace Entry

def isPodCall : Entry → Bool
  | .called c => c.podLine?.isSome
  | _ => false

def isCreation : Entry → Bool
  | .called (.createPod _) => true
  | _ => false

def isBeginning : Entry → Bool
  | .began _ => true
  | _ => false

section

variable {e : Entry}

theorem isCreation_of_not_isPodCall (h : e.isPodCall = false) : e.isCreation = false := by
  cases e with
  | called c => cases c <;> first | rfl | cases h
  | _ => rfl

theorem isBeginning_of_not_isMark (h : e.isMark = false) : e.isBeginning = false := by
  cases e <;> first | rfl | cases h

theorem quiet_of_isAside (h : e.isAside = true) : e.isMark = false ∧ e.isPodCall = false := by
  cases e with
  | called c => cases c <;> first | exact ⟨rfl, rfl⟩ | cases h
  | _ => first | exact ⟨rfl, rfl⟩ | cases h

theorem quiet_of_isOfScope (h : e.isOfScope = true) : e.isMark = false ∧ e.isPodCall = false := by
  cases e <;> first | exact ⟨rfl, rfl⟩ | cases h

end

end Entry

/-- A run of a pod that begins behind the cancellation makes no calls, nor does any later one, and
ends with an error that gives the first reason. One pod is created at most, by the run that was in
progress and had looked at the token before. -/
structure Halts (test : String) (t : Token) (log : List Entry) : Prop where
  runs : ∀ head p tail reason, log = head ++ .began p :: tail →
    (tokenAfter t head).cause = some reason →
    (∀ e ∈ tail, e.isPodCall = false) ∧ ∃ aside rest,
      tail = aside ++ .finished p (.error ⟨test, p.step, p.name, .cancelled reason⟩) :: rest ∧
        ∀ e ∈ aside, e.isMark = false
  creations : ∀ head tail, log = head ++ tail → (tokenAfter t head).isCancelled = true →
    (tail.filter Entry.isCreation).length ≤ 1 ∧
    ∀ early pod late, tail = early ++ .called (.createPod pod) :: late →
      ∃ before p begun, head = before ++ .began p :: begun ∧ p.pod = pod ∧
        .called (.deletePod p.name) ∈ begun ∧ ∀ e ∈ begun ++ early, e.isMark = false

/-! ## Logs behind which a run is in progress -/

/-- A run of a pod has begun before the cancellation and made no calls. -/
def Begun (t : Token) (p : StepPod) (log : List Entry) : Prop :=
  ∃ l m, log = (l ++ [.began p]) ++ m ∧ (tokenAfter t (l ++ [.began p])).isCancelled = false ∧
    ∀ e ∈ m, e.isMark = false ∧ e.isPodCall = false

/-- A run of a pod has made its first call before the cancellation, and has begun to create the pod
no more than so many times since. -/
def Placing (t : Token) (p : StepPod) (creations : Nat) (log : List Entry) : Prop :=
  ∃ l v m, log = (l ++ .began p :: v) ++ m ∧ (tokenAfter t (l ++ .began p :: v)).isCancelled = false ∧
    .called (.deletePod p.name) ∈ v ∧ (∀ e ∈ v ++ m, e.isMark = false) ∧
    (m.filter Entry.isCreation).length ≤ creations ∧
    ∀ pod, .called (.createPod pod) ∈ m → p.pod = pod

/-- A run of a pod has begun behind the cancellation and done nothing. -/
def Idling (test : String) (t : Token) (p : StepPod) (reason : String) (log : List Entry) : Prop :=
  ∃ l m, log = l ++ .began p :: m ∧ Halts test t l ∧ (tokenAfter t l).cause = some reason ∧
    ∀ e ∈ m, e.isMark = false ∧ e.isPodCall = false

section

variable {test : String} {t : Token} {p : StepPod} {log l m head tail : List Entry} {k : Nat}

/-- The cancellation is not in a part behind which the token is not cancelled. -/
theorem split_of_uncancelled (hl : (tokenAfter t l).isCancelled = false)
    (hhead : (tokenAfter t head).isCancelled = true) (h : l ++ m = head ++ tail) :
    ∃ a, head = l ++ a ∧ m = a ++ tail := by
  rcases List.append_eq_append_iff.mp h with hsplit | ⟨c, rfl, -⟩
  · exact hsplit
  · rw [tokenAfter_append_of_isCancelled hhead, hhead] at hl
    cases hl

theorem halts_of_uncancelled (h : (tokenAfter t log).isCancelled = false) : Halts test t log := by
  have hnone : ∀ head tail, log = head ++ tail → (tokenAfter t head).isCancelled = false := by
    intro head tail heq
    cases hcancelled : (tokenAfter t head).isCancelled with
    | false => rfl
    | true =>
      rw [heq, tokenAfter_append_of_isCancelled hcancelled, hcancelled] at h
      cases h
  refine ⟨fun head p tail reason heq hreason => ?_, fun head tail heq hcancelled => ?_⟩
  · have hcancelled := isCancelled_of_cause hreason
    rw [hnone head _ heq] at hcancelled
    cases hcancelled
  · rw [hnone head tail heq] at hcancelled
    cases hcancelled

/-- What is added makes no calls, and the runs that begin in it end as they have to. -/
theorem Halts.append (h : Halts test t log) (hcalls : ∀ e ∈ m, e.isPodCall = false)
    (hruns : ∀ head p tail reason, m = head ++ .began p :: tail →
      (tokenAfter t (log ++ head)).cause = some reason → ∃ aside rest,
        tail = aside ++ .finished p (.error ⟨test, p.step, p.name, .cancelled reason⟩) :: rest ∧
          ∀ e ∈ aside, e.isMark = false) : Halts test t (log ++ m) := by
  have hcreation : ∀ e ∈ m, e.isCreation = false :=
    fun e he => Entry.isCreation_of_not_isPodCall (hcalls e he)
  have hpod : ∀ pod, .called (.createPod pod) ∉ m := fun pod hmem => nomatch hcreation _ hmem
  refine ⟨fun head p tail reason heq hreason => ?_, fun head tail heq hcancelled => ?_⟩
  · rcases append_eq_append_cons heq with ⟨c, rfl, rfl⟩ | ⟨a, rfl, rfl⟩
    · obtain ⟨hnone, aside, rest, rfl, haside⟩ := h.runs head p c reason rfl hreason
      exact ⟨List.forall_mem_append.mpr ⟨hnone, hcalls⟩, aside, rest ++ m, by simp, haside⟩
    · refine ⟨fun e he => hcalls e ?_, hruns a p tail reason rfl hreason⟩
      exact List.mem_append_right a (List.mem_cons_of_mem _ he)
  · rcases List.append_eq_append_iff.mp heq with ⟨a, rfl, rfl⟩ | ⟨c, rfl, rfl⟩
    · refine ⟨?_, fun early pod late htail => absurd ?_ (hpod pod)⟩
      · have hnil : tail.filter Entry.isCreation = [] := by
          refine List.filter_eq_nil_iff.mpr fun e he => ?_
          rw [hcreation e (List.mem_append_right a he)]
          exact Bool.false_ne_true
        rw [hnil]
        exact Nat.zero_le 1
      · rw [htail]
        simp
    · obtain ⟨hlength, hplace⟩ := h.creations head c rfl hcancelled
      refine ⟨?_, fun early pod late htail => ?_⟩
      · have hnil : m.filter Entry.isCreation = [] :=
          List.filter_eq_nil_iff.mpr fun e he => by simp [hcreation e he]
        rw [List.filter_append, hnil, List.append_nil]
        exact hlength
      · rcases append_eq_append_cons htail with ⟨late', rfl, -⟩ | ⟨a, -, rfl⟩
        · exact hplace early pod late' rfl
        · exact absurd (by simp) (hpod pod)

theorem Halts.append_of_no_beginning (h : Halts test t log)
    (hm : ∀ e ∈ m, e.isPodCall = false ∧ e.isBeginning = false) : Halts test t (log ++ m) := by
  refine h.append (fun e he => (hm e he).1) fun head p tail reason heq _ => ?_
  have hbegan := (hm (.began p) (by simp [heq])).2
  cases hbegan

theorem Halts.grows :
    Grows (fun e => e.isPodCall = false ∧ e.isBeginning = false) (Halts test t) :=
  fun _ _ he h => h.append_of_no_beginning (List.forall_mem_singleton.mpr he)

theorem Idling.grows {reason : String} :
    Grows (fun e => e.isMark = false ∧ e.isPodCall = false) (Idling test t p reason) := by
  rintro log e he ⟨l, m, rfl, hl, hreason, hm⟩
  refine ⟨l, m ++ [e], by simp, hl, hreason, ?_⟩
  exact List.forall_mem_append.mpr ⟨hm, List.forall_mem_singleton.mpr he⟩

theorem Idling.cause {reason : String} (h : Idling test t p reason log) :
    (tokenAfter t log).cause = some reason := by
  obtain ⟨l, m, rfl, -, hreason, -⟩ := h
  rw [tokenAfter_append_of_isCancelled (isCancelled_of_cause hreason), hreason]

theorem Idling.halts {reason : String} (h : Idling test t p reason log) :
    Halts test t (log ++ [.finished p (.error ⟨test, p.step, p.name, .cancelled reason⟩)]) := by
  obtain ⟨l, m, rfl, hl, hreason, hm⟩ := h
  rw [List.append_assoc]
  refine hl.append (fun e he => ?_) fun head q tail reason' heq hreason' => ?_
  · simp only [List.cons_append, List.mem_cons, List.mem_append, List.not_mem_nil, or_false] at he
    rcases he with rfl | he | rfl
    · rfl
    · exact (hm e he).2
    · rfl
  · rw [tokenAfter_append_of_isCancelled (isCancelled_of_cause hreason), hreason] at hreason'
    cases hreason'
    cases head with
    | nil =>
      obtain ⟨hp, rfl⟩ := List.cons.inj heq
      cases hp
      exact ⟨m, [], rfl, fun e he => (hm e he).1⟩
    | cons x head =>
      have htail : m ++ [.finished p (.error ⟨test, p.step, p.name, .cancelled reason⟩)] =
          head ++ .began q :: tail := (List.cons.inj heq).2
      have hmem : .began q ∈ m ++
          [Entry.finished p (.error ⟨test, p.step, p.name, .cancelled reason⟩)] := by
        rw [htail]
        simp
      rcases List.mem_append.mp hmem with hmem | hmem
      · have hmark := (hm _ hmem).1
        cases hmark
      · cases List.mem_singleton.mp hmem

theorem Begun.halts (h : Begun t p log) : Halts test t log := by
  obtain ⟨l, m, rfl, hl, hm⟩ := h
  exact (halts_of_uncancelled hl).append_of_no_beginning fun e he =>
    ⟨(hm e he).2, Entry.isBeginning_of_not_isMark (hm e he).1⟩

theorem Placing.halts (h : Placing t p 1 log) : Halts test t log := by
  obtain ⟨l, v, m, rfl, huncancelled, hdeleted, hmarks, hlength, hpods⟩ := h
  -- The token is not cancelled where the first call is made, so a cancellation is in `m`: no run
  -- begins behind it, and all that is created behind it is created in `m`.
  refine ⟨fun head q tail reason heq hreason => ?_, fun head tail heq hcancelled => ?_⟩
  · obtain ⟨a, rfl, rfl⟩ := split_of_uncancelled huncancelled (isCancelled_of_cause hreason) heq
    have hmark := hmarks (.began q) (by simp)
    cases hmark
  · obtain ⟨a, rfl, rfl⟩ := split_of_uncancelled huncancelled hcancelled heq
    refine ⟨?_, fun early pod late htail => ?_⟩
    · rw [List.filter_append, List.length_append] at hlength
      omega
    · subst htail
      refine ⟨l, p, v ++ a, by simp, hpods pod (by simp), List.mem_append_left a hdeleted, ?_⟩
      intro e he
      refine hmarks e ?_
      simp only [List.mem_append] at he ⊢
      tauto

theorem begun_start (h : (tokenAfter t log).isCancelled = false) :
    Begun t p (log ++ [.began p]) := by
  refine ⟨log, [], (List.append_nil _).symm, ?_, fun _ he => nomatch he⟩
  rw [tokenAfter_append]
  exact h

theorem Begun.grows : Grows (fun e => e.isMark = false ∧ e.isPodCall = false) (Begun t p) := by
  rintro log e he ⟨l, m, rfl, hl, hm⟩
  refine ⟨l, m ++ [e], List.append_assoc .., hl, ?_⟩
  exact List.forall_mem_append.mpr ⟨hm, List.forall_mem_singleton.mpr he⟩

/-- The first call is made where the token is not cancelled. -/
theorem Begun.place (h : Begun t p log) (hlog : (tokenAfter t log).isCancelled = false) :
    Placing t p 0 (log ++ [.called (.deletePod p.name)]) := by
  obtain ⟨l, m, rfl, -, hm⟩ := h
  refine ⟨l, m ++ [.called (.deletePod p.name)], [], by simp, ?_, by simp, ?_, Nat.le_refl 0,
    fun _ h => nomatch h⟩
  · have heq : l ++ .began p :: (m ++ [.called (.deletePod p.name)]) =
        ((l ++ [.began p]) ++ m) ++ [.called (.deletePod p.name)] := by simp
    rw [heq, tokenAfter_append]
    exact hlog
  · rw [List.append_nil]
    exact List.forall_mem_append.mpr ⟨fun e he => (hm e he).1, List.forall_mem_singleton.mpr rfl⟩

theorem Placing.grows :
    Grows (fun e => e.isMark = false ∧ e.isCreation = false) (Placing t p k) := by
  rintro log e ⟨hmark, hcreation⟩ ⟨l, v, m, rfl, huncancelled, hdeleted, hmarks, hlength, hpods⟩
  refine ⟨l, v, m ++ [e], List.append_assoc .., huncancelled, hdeleted, ?_, ?_, fun pod hpod => ?_⟩
  · rw [← List.append_assoc]
    exact List.forall_mem_append.mpr ⟨hmarks, List.forall_mem_singleton.mpr hmark⟩
  · rw [List.filter_append, List.filter_cons_of_neg (by simp [hcreation]), List.filter_nil,
      List.append_nil]
    exact hlength
  · rcases List.mem_append.mp hpod with hpod | hpod
    · exact hpods pod hpod
    · obtain rfl := List.mem_singleton.mp hpod
      cases hcreation

theorem Placing.create (h : Placing t p k log) :
    Placing t p (k + 1) (log ++ [.called (.createPod p.pod)]) := by
  obtain ⟨l, v, m, rfl, huncancelled, hdeleted, hmarks, hlength, hpods⟩ := h
  refine ⟨l, v, m ++ [.called (.createPod p.pod)], List.append_assoc .., huncancelled, hdeleted, ?_,
    ?_, fun pod hpod => ?_⟩
  · rw [← List.append_assoc]
    exact List.forall_mem_append.mpr ⟨hmarks, List.forall_mem_singleton.mpr rfl⟩
  · rw [List.filter_append, List.length_append]
    exact Nat.add_le_add_right hlength 1
  · rcases List.mem_append.mp hpod with hpod | hpod
    · exact hpods pod hpod
    · cases List.mem_singleton.mp hpod
      rfl

end

/-! ## The run of a pod -/

def Call.NoCreation (c : Call) : Prop := ∀ pod, c ≠ .createPod pod

theorem admits_noCreation :
    Admits (fun e => e.isMark = false ∧ e.isCreation = false) Call.NoCreation where
  aside := fun e he => by
    obtain ⟨hmark, hcall⟩ := Entry.quiet_of_isAside he
    exact ⟨hmark, Entry.isCreation_of_not_isPodCall hcall⟩
  commands := fun _ _ _ _ h => nomatch h
  called := fun c hc => by
    cases c with
    | createPod pod => exact absurd rfl (hc pod)
    | _ => exact ⟨rfl, rfl⟩
  answered := fun _ _ _ => ⟨rfl, rfl⟩
  delivered := fun _ => ⟨rfl, rfl⟩
  scope := fun e he => by
    obtain ⟨hmark, hcall⟩ := Entry.quiet_of_isOfScope he
    exact ⟨hmark, Entry.isCreation_of_not_isPodCall hcall⟩
  recorded := fun _ _ _ => ⟨rfl, rfl⟩

section

variable (env : Surroundings σ) (w₀ : World σ) (p : StepPod) (test : String)

theorem keptAtPauses_begun : KeptAtPauses env (w₀.Along (Begun w₀.token p)) :=
  keptAtPauses_along env w₀ Begun.grows fun _ => Entry.quiet_of_isAside

theorem keptByRuns_placing (k : Nat) :
    KeptByRuns env Call.NoCreation (w₀.Along (Placing w₀.token p k)) :=
  keptByRuns_along env w₀ Placing.grows admits_noCreation

theorem keptByScopes_halts : KeptByScopes env (w₀.Along (Halts test w₀.token)) := by
  refine keptByScopes_along env w₀ Halts.grows (fun e he => ?_) fun e he => ?_
  · obtain ⟨hmark, hcall⟩ := Entry.quiet_of_isAside he
    exact ⟨hcall, Entry.isBeginning_of_not_isMark hmark⟩
  · obtain ⟨hmark, hcall⟩ := Entry.quiet_of_isOfScope he
    exact ⟨hcall, Entry.isBeginning_of_not_isMark hmark⟩

theorem keptByPreparation_halts (params : Parameters σ) :
    KeptByPreparation env params (w₀.Along (Halts test w₀.token)) := by
  refine keptByPreparation_along env w₀ Halts.grows params (fun e he => ?_) (fun c hc => ?_)
    (fun _ => ⟨rfl, rfl⟩) fun _ _ _ => ⟨rfl, rfl⟩
  · obtain ⟨hmark, hcall⟩ := Entry.quiet_of_isAside he
    exact ⟨hcall, Entry.isBeginning_of_not_isMark hmark⟩
  · refine ⟨⟨?_, rfl⟩, fun _ => ⟨rfl, rfl⟩⟩
    cases c <;> first | rfl | cases hc

end

open StagedTests.Task (Keeps Meets)

namespace Runner

variable (env : Surroundings σ) (w₀ : World σ) (r : Runner) (p : StepPod)

theorem create_places : Meets (w₀.Along (Placing w₀.token p 0)) (create env p)
    (fun _ => w₀.Along (Placing w₀.token p 1)) (w₀.Along (Placing w₀.token p 1)) := by
  have hkept := keptByRuns_placing env w₀ p 1
  refine .bind (hkept.call_meets (fun w hw => ?_) fun w hw => ?_) fun answer => ?_
  · exact hw.add (fun _ => rfl) fun log _ hlog => hlog.create
  · exact hw.answer Placing.grows (fun _ => ⟨rfl, rfl⟩) _
  · cases answer <;> exact .done fun _ hw => hw

theorem createOrRestart_places :
    Meets (fun w => w₀.Along (Begun w₀.token p) w ∧ w.token.isCancelled = false)
      (r.createOrRestart env p)
      (fun _ => w₀.Along (Placing w₀.token p 1)) (w₀.Along (Placing w₀.token p 1)) := by
  have hkept := keptByRuns_placing env w₀ p 0
  have hmore : ∀ w, w₀.Along (Placing w₀.token p 0) w → w₀.Along (Placing w₀.token p 1) w :=
    fun w hw => hw.mono fun log _ ⟨l, v, m, hlog, huncancelled, hdeleted, hmarks, hlength, hpods⟩ =>
      ⟨l, v, m, hlog, huncancelled, hdeleted, hmarks, Nat.le_succ_of_le hlength, hpods⟩
  have hremove : Meets (fun w => w₀.Along (Begun w₀.token p) w ∧ w.token.isCancelled = false)
      (Task.call env (.deletePod p.name) (env.pods.delete p.name))
      (fun _ => w₀.Along (Placing w₀.token p 0)) (w₀.Along (Placing w₀.token p 0)) := by
    refine hkept.call_meets (fun w hw => ?_) fun w hw => hkept.deletePod _ w (fun _ h => nomatch h) hw
    refine hw.1.add (fun _ => rfl) fun log htoken hlog => hlog.place ?_
    rw [← htoken]
    exact hw.2
  refine .bind (hremove.weaken (fun _ hw => hw) (fun _ _ hw => hw) hmore) fun answer => ?_
  cases answer with
  | ok _ =>
    have hgone : Meets (w₀.Along (Placing w₀.token p 0)) (r.awaitGone env p.name env.patience)
        (fun _ => w₀.Along (Placing w₀.token p 0)) (w₀.Along (Placing w₀.token p 0)) :=
      .ofKeeps (hkept.awaitGone r (fun _ h => nomatch h) _)
    refine .bind (hgone.weaken (fun _ hw => hw) (fun _ _ hw => hw) hmore) fun gone => ?_
    cases gone with
    | ok _ => exact create_places env w₀ p
    | error e => exact .done hmore
  | error e =>
    dsimp only
    split
    · exact create_places env w₀ p
    · exact .done hmore

theorem run_halts (hdry : r.dry = false) :
    Meets (w₀.Along (Begun w₀.token p)) (r.run env p)
      (fun _ => w₀.Along (Halts r.test w₀.token)) (w₀.Along (Halts r.test w₀.token)) := by
  have hbegun : ∀ w, w₀.Along (Begun w₀.token p) w → w₀.Along (Halts r.test w₀.token) w :=
    fun w hw => hw.mono fun _ _ h => h.halts
  have hplaced : ∀ w, w₀.Along (Placing w₀.token p 1) w → w₀.Along (Halts r.test w₀.token) w :=
    fun w hw => hw.mono fun _ _ h => h.halts
  have hcheck : Meets (w₀.Along (Begun w₀.token p)) (Task.isCancelled env)
      (fun cancelled w => w₀.Along (Begun w₀.token p) w ∧ w.token.isCancelled = cancelled)
      (w₀.Along (Halts r.test w₀.token)) :=
    .bind (Q := fun _ => w₀.Along (Begun w₀.token p))
      (.change ((keptAtPauses_begun env w₀ p).pass .checking)) fun _ => .look fun w hw => ⟨hw, rfl⟩
  unfold run
  simp only [hdry, if_false, Bool.false_eq_true]
  refine .bind hcheck fun cancelled => ?_
  cases cancelled with
  | true => exact .bind (.look fun _ hw => hw.1) fun _ => .done fun w hw => hbegun w hw
  | false =>
    simp only [if_false, Bool.false_eq_true]
    refine .bind ((createOrRestart_places env w₀ r p).weaken (fun _ hw => hw) (fun _ _ hw => hw)
      hplaced) fun created => ?_
    cases created with
    | error e => exact .done hplaced
    | ok _ =>
      have hkept := keptByRuns_placing env w₀ p 1
      refine Meets.weaken (.ofKeeps ?_) (fun _ hw => hw) (fun _ w hw => hplaced w hw) hplaced
      exact .bind (hkept.opened _) fun _ => .bind (hkept.watch r (fun _ h => nomatch h) _ _)
        fun result => .bind (hkept.closeScope _) fun _ => .bind (hkept.report result) fun _ => .done _

theorem run_idles (hdry : r.dry = false) (reason : String) :
    Meets (w₀.Along (Idling r.test w₀.token p reason)) (r.run env p)
      (fun result w => result = .error (r.error p (.cancelled reason)) ∧
        w₀.Along (Idling r.test w₀.token p reason) w) (fun _ => False) := by
  have hpauses : KeptAtPauses env (w₀.Along (Idling r.test w₀.token p reason)) :=
    keptAtPauses_along env w₀ Idling.grows fun _ => Entry.quiet_of_isAside
  have hcause : ∀ w, w₀.Along (Idling r.test w₀.token p reason) w → w.token.cause = some reason := by
    rintro w ⟨log, -, htoken, hlog⟩
    rw [htoken]
    exact hlog.cause
  have hcheck : Meets (w₀.Along (Idling r.test w₀.token p reason)) (Task.isCancelled env)
      (fun cancelled w => cancelled = true ∧ w₀.Along (Idling r.test w₀.token p reason) w)
      (fun _ => False) :=
    .bind (Q := fun _ => w₀.Along (Idling r.test w₀.token p reason))
      (.change (hpauses.pass .checking)) fun _ =>
        .look fun w hw => ⟨isCancelled_of_cause (hcause w hw), hw⟩
  unfold run
  simp only [hdry, if_false, Bool.false_eq_true]
  refine .bind hcheck fun cancelled => ?_
  cases cancelled with
  | false => exact fun w hw => nomatch hw.1
  | true =>
    refine .bind (Q := fun given w => given = reason ∧
      w₀.Along (Idling r.test w₀.token p reason) w) (.look fun w hw => ?_) fun given => .done ?_
    · refine ⟨?_, hw.2⟩
      rw [Token.reason, hcause w hw.2]
      rfl
    · rintro w ⟨rfl, hw⟩
      exact ⟨rfl, hw⟩

theorem attempt_halts (hdry : r.dry = false) (text : String) :
    Keeps (w₀.Along (Halts r.test w₀.token)) (r.attempt env text p) := by
  have hcases : ∀ result : Except ExecutionError Unit, Keeps (w₀.Along (Halts r.test w₀.token))
      (do
        let cases ← Task.look fun w => w.observer.record.subtests text
        return (result, cases)) := fun result => .bind (.look _) fun _ => .done _
  intro w hw
  have hw' : w₀.Along (Halts r.test w₀.token) { w with observer := r.observerFor p } :=
    hw.of_eq rfl rfl
  -- No one acts between this world and the beginning of the run, so the token tells here already
  -- whether the run begins before the cancellation or behind it.
  cases hcause : w.token.cause with
  | none =>
    refine Meets.ends (P := fun v => v = w) (.bind (Q := fun _ => w₀.Along (Begun w₀.token p))
      (.change ?_) fun _ => .bind (run_halts env w₀ r p hdry) fun result => .ofKeeps
        (.bind ?_ fun _ => hcases result)) rfl
    · rintro _ rfl
      refine hw'.add (fun _ => rfl) fun log htoken _ => begun_start ?_
      rw [← htoken, Token.isCancelled, hcause]
      rfl
    · exact fun _ hv => hv.note Halts.grows ⟨rfl, rfl⟩ fun _ => rfl
  | some reason =>
    refine Meets.ends (P := fun v => v = w) (.bind
      (Q := fun _ => w₀.Along (Idling r.test w₀.token p reason)) (.change ?_) fun _ =>
        .bind ((run_idles env w₀ r p hdry reason).weaken (fun _ hv => hv) (fun _ _ hv => hv) ?_)
          fun result => .bind (Q := fun _ => w₀.Along (Halts r.test w₀.token)) (.change ?_)
            fun _ => .ofKeeps (hcases result)) rfl
    · rintro _ rfl
      refine hw'.add (fun _ => rfl) fun log htoken hlog => ⟨log, [], rfl, hlog, ?_, ?_⟩
      · rw [← htoken, hcause]
      · intro e h
        cases h
    · rintro _ h
      cases h
    · rintro v ⟨rfl, hv⟩
      exact hv.add (fun _ => rfl) fun log _ hlog => hlog.halts

end Runner

theorem StagedTest.run_halts (t : StagedTest) (env : Surroundings σ) (params : Parameters σ)
    (hdry : t.dry = false) (w : World σ) :
    w.Along (Halts t.name w.token) (t.run env params w).2 := by
  have hattempts : ∀ profile, Keeps (w.Along (Halts t.name w.token)) (t.runPhases env profile) :=
    fun profile => t.runPhases_keeps (keptByScopes_halts env w t.name) profile
      fun _ _ p _ text => t.runner.attempt_halts env w p hdry text
  refine t.run_keeps ((keptByPreparation_halts env w t.name params).prepare t) hattempts w ?_
  refine .start w ⟨fun head p tail reason h => ?_, fun head tail h _ => ?_⟩
  · simp at h
  · obtain ⟨-, rfl⟩ := List.append_eq_nil_iff.mp h.symm
    simp

end StagedTests
