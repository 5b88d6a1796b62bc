import StagedTests.Proofs.Run.Halt
import StagedTests.Proofs.Run.Observation

/-!
# Calls behind the cancellation

Watching a pod ends with the token, so little is called behind the cancellation: where a pod was
created before it, no more than the commands of one collection of artifacts. But the wait for a pod
that is left over does not look at the token. It goes on behind the cancellation for as long as the
pod is found, and then the new pod is created.
-/

namespace StagedTests

variable {σ : Type}

open StagedTests.Task (Keeps Meets)

/-! ## Early and late calls -/

def Entry.podCall? : Entry → Option Call
  | .called c => if c.podLine?.isSome then some c else none
  | _ => none

/-- The calls on single pods that are made while the token is cancelled, or while it is not. -/
def callsWhile (cancelled : Bool) : Token → List Entry → List Call
  | _, [] => []
  | t, e :: rest =>
    (if t.isCancelled = cancelled then e.podCall?.toList else []) ++
      callsWhile cancelled (e.signal t) rest

abbrev earlyCalls (t : Token) (log : List Entry) : List Call := callsWhile false t log

abbrev lateCalls (t : Token) (log : List Entry) : List Call := callsWhile true t log

section

variable {t : Token} {log : List Entry} {e : Entry} {cancelled : Bool}

theorem callsWhile_append (l m : List Entry) : callsWhile cancelled t (l ++ m) =
    callsWhile cancelled t l ++ callsWhile cancelled (tokenAfter t l) m := by
  induction l generalizing t with
  | nil => rfl
  | cons e rest ih =>
    simp only [List.cons_append, callsWhile, ih, List.append_assoc]
    rfl

theorem callsWhile_concat (l : List Entry) (e : Entry) : callsWhile cancelled t (l ++ [e]) =
    callsWhile cancelled t l ++
      if (tokenAfter t l).isCancelled = cancelled then e.podCall?.toList else [] := by
  rw [callsWhile_append, callsWhile, callsWhile, List.append_nil]

theorem podCall?_of_not_isPodCall (h : e.isPodCall = false) : e.podCall? = none := by
  cases e with
  | called c => exact if_neg (Bool.eq_false_iff.mp h)
  | _ => rfl

theorem callsWhile_concat_quiet (h : e.isPodCall = false) :
    callsWhile cancelled t (log ++ [e]) = callsWhile cancelled t log := by
  rw [callsWhile_concat, podCall?_of_not_isPodCall h]
  split <;> exact List.append_nil _

theorem lateCalls_eq_nil (h : (tokenAfter t log).isCancelled = false) : lateCalls t log = [] := by
  induction log generalizing t with
  | nil => rfl
  | cons e rest ih =>
    have ht : ¬ t.isCancelled = true := fun hc => by
      rw [tokenAfter_of_isCancelled hc, hc] at h
      cases h
    rw [lateCalls, callsWhile, if_neg ht]
    exact ih h

end

def Split (t : Token) (P : List Call → List Call → Prop) (log : List Entry) : Prop :=
  P (earlyCalls t log) (lateCalls t log)

section

variable {w₀ w : World σ} {P P' : List Call → List Call → Prop}

theorem Split.grows (t : Token) : Grows (fun e => e.isPodCall = false) (Split t P) := by
  intro log e he h
  rwa [Split, earlyCalls, lateCalls, callsWhile_concat_quiet he, callsWhile_concat_quiet he]

/-- A call on a single pod is late if the token is cancelled; else it is early, and so were all. -/
theorem World.Along.call (h : w₀.Along (Split w₀.token P) w) {c : Call}
    (hc : c.podLine?.isSome = true)
    (hlate : w.token.isCancelled = true → ∀ early late, P early late → P' early (late ++ [c]))
    (hearly : w.token.isCancelled = false → ∀ early, P early [] → P' (early ++ [c]) []) :
    w₀.Along (Split w₀.token P') (w.note (.called c)) := by
  refine h.add (fun _ => rfl) fun log htoken hlog => ?_
  have hcall : (Entry.called c).podCall?.toList = [c] := by
    rw [Entry.podCall?, if_pos hc]
    rfl
  rw [Split] at hlog
  rw [Split, earlyCalls, lateCalls, callsWhile_concat, callsWhile_concat, ← htoken, hcall]
  cases hcancelled : w.token.isCancelled with
  | true => simpa using hlate hcancelled _ _ hlog
  | false =>
    have hnone : lateCalls w₀.token log = [] := lateCalls_eq_nil (by rw [← htoken, hcancelled])
    rw [hnone] at hlog
    rw [show callsWhile true w₀.token log = [] from hnone]
    simpa using hearly hcancelled _ hlog

end

/-! ## What is called behind the cancellation -/

section

variable (p : StepPod)

/-- What may be called behind the cancellation. -/
inductive Lagging (early : List Call) : List Call → Prop
  /-- The pod was not created before, and one that is left over is still looked at. -/
  | looks (h : .createPod p.pod ∉ early) (k : Nat) :
    Lagging early (List.replicate k (.getPod p.name))
  /-- Then the pod is created. -/
  | creation (h : .createPod p.pod ∉ early) (k : Nat) :
    Lagging early (List.replicate k (.getPod p.name) ++ [.createPod p.pod])
  /-- Commands of one collection of artifacts are begun. -/
  | commands (pod : String) {commands : List (List String)}
    (h : commands.Sublist [packCommand, releaseCommand]) :
    Lagging early (commands.map (.exec pod artifactsContainer))

theorem Lagging.nil (early : List Call) : Lagging p early [] := .commands "" (List.nil_sublist _)

theorem Lagging.length_le {early late : List Call} (h : Lagging p early late)
    (hcreated : .createPod p.pod ∈ early) : late.length ≤ 2 := by
  cases h with
  | looks h _ | creation h _ => exact absurd hcreated h
  | commands pod h =>
    rw [List.length_map]
    exact h.length_le

/-- No pod was created before the cancellation, and behind it a pod left over is looked at. -/
def LeftOver (early late : List Call) : Prop :=
  .createPod p.pod ∉ early ∧ ∃ k, late = List.replicate k (.getPod p.name)

def Uncalled (early late : List Call) : Prop := early = [] ∧ late = []

def Prompt (_ late : List Call) : Prop := late = []

/-- Of these first commands of a collection, some were begun behind the cancellation. -/
def Fetching (c : Collector) (k : Nat) (_ late : List Call) : Prop :=
  ∃ commands : List (List String), commands.Sublist (c.commands.take k) ∧
    late = commands.map (.exec c.pod artifactsContainer)

theorem LeftOver.lagging {early late : List Call} (h : LeftOver p early late) :
    Lagging p early late := by
  obtain ⟨hcreated, k, rfl⟩ := h
  exact .looks hcreated k

theorem Uncalled.lagging {early late : List Call} (h : Uncalled early late) :
    Lagging p early late := by
  rw [h.2]
  exact .nil p early

theorem Prompt.lagging {early late : List Call} (h : Prompt early late) :
    Lagging p early late := by
  rw [show late = [] from h]
  exact .nil p early

theorem Fetching.lagging {c : Collector} {k : Nat} {early late : List Call}
    (h : Fetching c k early late) : Lagging p early late := by
  obtain ⟨commands, hcommands, rfl⟩ := h
  have hall : c.commands.Sublist [packCommand, releaseCommand] := by
    unfold Collector.commands
    cases c.directory with
    | none => exact List.sublist_cons_self _ _
    | some _ => exact List.Sublist.refl _
  exact .commands c.pod ((hcommands.trans (List.take_sublist _ _)).trans hall)

end

section

variable (env : Surroundings σ) (w₀ : World σ) (r : Runner) (p : StepPod)

theorem keptAtPauses_split (P : List Call → List Call → Prop) :
    KeptAtPauses env (w₀.Along (Split w₀.token P)) :=
  keptAtPauses_along env w₀ (Split.grows _) fun _ he => (Entry.quiet_of_isAside he).2

theorem keptByScopes_split (P : List Call → List Call → Prop) :
    KeptByScopes env (w₀.Along (Split w₀.token P)) :=
  keptByScopes_along env w₀ (Split.grows _) (fun _ he => (Entry.quiet_of_isAside he).2)
    fun _ he => (Entry.quiet_of_isOfScope he).2

theorem call_split {Q : List Call → List Call → Prop} {I : World σ → Prop} {α : Type} {c : Call}
    (op : σ → Reply α × σ) (h : ∀ w, I w → w₀.Along (Split w₀.token Q) (w.note (.called c))) :
    Meets I (Task.call env c op) (fun _ => w₀.Along (Split w₀.token Q))
      (w₀.Along (Split w₀.token Q)) :=
  (keptAtPauses_split env w₀ Q).call_meets h
    fun _ hw => hw.answer (Split.grows _) (fun _ => rfl) op

/-! ### A pod that is left over -/

theorem awaitGone_leftOver (n : Nat) :
    Keeps (w₀.Along (Split w₀.token (LeftOver p))) (r.awaitGone env p.name n) := by
  -- the token is not looked at between two looks, so each may be late
  induction n with
  | zero => exact .stall
  | succ n ih =>
    have hlook := call_split env w₀ (I := w₀.Along (Split w₀.token (LeftOver p)))
      (Q := LeftOver p) (env.pods.get p.name) fun w hw => hw.call (c := .getPod p.name) rfl
        (fun _ early late ⟨hcreated, k, hlate⟩ =>
          ⟨hcreated, k + 1, by rw [hlate, List.replicate_succ']⟩)
        fun _ early ⟨hcreated, _⟩ => ⟨by simpa using hcreated, 0, rfl⟩
    refine .bind hlook.keeps fun answer => ?_
    cases answer with
    | error e => exact .done _
    | ok _ => exact .bind ((keptAtPauses_split env w₀ _).sleep r n) fun _ => ih

theorem create_lagging :
    Meets (w₀.Along (Split w₀.token (LeftOver p))) (Runner.create env p)
      (fun _ => w₀.Along (Split w₀.token (Lagging p))) (w₀.Along (Split w₀.token (Lagging p))) := by
  refine .bind (call_split env w₀ (env.pods.create p.pod) fun w hw => hw.call rfl
    (fun _ early late ⟨hcreated, k, hlate⟩ => hlate ▸ .creation hcreated k)
    fun _ early _ => .nil p _) fun answer => ?_
  cases answer <;> exact .done fun _ hw => hw

theorem createOrRestart_lagging :
    Meets (fun w => w₀.Along (Split w₀.token Uncalled) w ∧ w.token.isCancelled = false)
      (r.createOrRestart env p)
      (fun _ => w₀.Along (Split w₀.token (Lagging p))) (w₀.Along (Split w₀.token (Lagging p))) := by
  have hlagging : ∀ w, w₀.Along (Split w₀.token (LeftOver p)) w →
      w₀.Along (Split w₀.token (Lagging p)) w := fun w hw => hw.mono fun _ _ h => h.lagging
  have hdelete := call_split env w₀ (Q := LeftOver p)
    (I := fun w => w₀.Along (Split w₀.token Uncalled) w ∧ w.token.isCancelled = false)
    (env.pods.delete p.name) fun w hw => hw.1.call (c := .deletePod p.name) rfl
      (fun hc => by rw [hw.2] at hc; cases hc)
      fun _ early ⟨hearly, _⟩ => ⟨by simp [hearly], 0, rfl⟩
  refine .bind (hdelete.weaken (fun _ hw => hw) (fun _ _ hw => hw) hlagging) fun answer => ?_
  cases answer with
  | ok _ =>
    have hgone := Meets.ofKeeps (awaitGone_leftOver env w₀ r p env.patience)
    refine .bind (hgone.weaken (fun _ hw => hw) (fun _ _ hw => hw) hlagging) fun gone => ?_
    cases gone with
    | ok _ => exact create_lagging env w₀ p
    | error e => exact .done hlagging
  | error e =>
    dsimp only
    split
    · exact create_lagging env w₀ p
    · exact .done hlagging

/-! ### A pod that is watched -/

theorem race_lagging {α : Type} {t : Task σ α}
    (ht : Meets (fun w => w₀.Along (Split w₀.token Prompt) w ∧ w.token.isCancelled = false) t
      (fun _ => w₀.Along (Split w₀.token (Lagging p))) (w₀.Along (Split w₀.token (Lagging p)))) :
    Keeps (w₀.Along (Split w₀.token (Lagging p))) (Task.race env t) := by
  intro w hw
  have hpassed := (keptAtPauses_split env w₀ (Lagging p)).pass .checking w hw
  rw [Task.race_eq]
  split
  · exact hpassed
  · rename_i hgoing
    have hgoing' : (Task.pass env .checking w).2.token.isCancelled = false :=
      Bool.eq_false_iff.mpr hgoing
    -- the token was just looked at, so nothing has been late so far
    have hprompt : w₀.Along (Split w₀.token Prompt)
        { (Task.pass env .checking w).2 with racing := true } :=
      (hpassed.of_eq rfl rfl).mono fun log htoken _ =>
        lateCalls_eq_nil (by rw [← htoken]; exact hgoing')
    have hended := ht.ends ⟨hprompt, hgoing'⟩
    unfold Task.untilCancelled
    split <;> rename_i heq <;> rw [heq] at hended
    · exact hended.of_eq rfl rfl
    · exact hended.of_eq rfl rfl
    · exact hended.of_eq rfl rfl
    · exact hended

theorem look_lagging :
    Keeps (w₀.Along (Split w₀.token (Lagging p)))
      (Task.race env (Task.call env (.getPod p.name) (env.pods.get p.name))) :=
  race_lagging env w₀ p (call_split env w₀ (env.pods.get p.name) fun w hw =>
    hw.1.call rfl (fun hc => by rw [hw.2] at hc; cases hc) fun _ _ _ => .nil p _)

theorem sleep_lagging (looks : Nat) :
    Keeps (w₀.Along (Split w₀.token (Lagging p))) (Task.race env (r.sleep env looks)) := by
  have hsleep := Meets.ofKeeps ((keptAtPauses_split env w₀ (Lagging p)).sleep r looks)
  exact race_lagging env w₀ p (hsleep.weaken (fun w hw => hw.1.mono fun _ _ h => h.lagging p)
    (fun _ _ hw => hw) fun _ hw => hw)

theorem filing_fetching (c : Collector) (k : Nat) :
    MetByFiling env (w₀.Along (Split w₀.token (Fetching c k)))
      (w₀.Along (Split w₀.token (Lagging p))) where
  pause := (Meets.ofKeeps ((keptAtPauses_split env w₀ _).pause .filing)).weaken (fun _ hw => hw)
    (fun _ _ hw => hw) fun _ hw => hw.mono fun _ _ h => h.lagging p
  warned := fun _ _ hw => hw.note (Split.grows _) rfl fun _ => rfl
  disk := fun _ _ hw => hw.of_eq rfl rfl

theorem command_fetching (c : Collector) (k : Nat) {words : List String}
    (hk : c.commands[k]? = some words) :
    Meets (w₀.Along (Split w₀.token (Fetching c k))) (c.command env words)
      (fun _ => w₀.Along (Split w₀.token (Fetching c (k + 1))))
      (w₀.Along (Split w₀.token (Lagging p))) := by
  have htake : c.commands.take (k + 1) = c.commands.take k ++ [words] := by
    rw [List.take_add_one, hk]
    rfl
  refine (call_split env w₀ (Q := Fetching c (k + 1)) (env.pods.exec _ _ _) fun w hw =>
    hw.call rfl (fun _ early late ⟨commands, hcommands, hlate⟩ => ?_)
      fun _ early _ => ⟨[], List.nil_sublist _, rfl⟩).weaken (fun _ hw => hw) (fun _ _ hw => hw)
    fun _ hw => hw.mono fun _ _ h => h.lagging p
  refine ⟨commands ++ [words], ?_, by rw [hlate, List.map_append]; rfl⟩
  rw [htake]
  exact hcommands.append (List.Sublist.refl _)

/-- To be told of an event is to begin no more commands than those of one collection. -/
theorem notify_lagging (e : ContainerEvent) :
    Meets (w₀.Along (Split w₀.token Prompt)) (Observer.notify env e)
      (fun _ => w₀.Along (Split w₀.token (Lagging p))) (w₀.Along (Split w₀.token (Lagging p))) := by
  have hlagging : ∀ w, w₀.Along (Split w₀.token Prompt) w →
      w₀.Along (Split w₀.token (Lagging p)) w := fun w hw => hw.mono fun _ _ h => h.lagging p
  refine .bind (Q := fun _ => w₀.Along (Split w₀.token Prompt)) (.look fun _ hw => hw)
    fun nested => ?_
  cases nested with
  | silent | tally _ _ => exact .done hlagging
  | collector c =>
    dsimp only
    unfold Collector.observe
    split
    · refine .bind (Q := fun _ => w₀.Along (Split w₀.token Prompt))
        (.change fun _ hw => hw.of_eq rfl rfl) fun _ =>
        .bind (Q := fun _ => w₀.Along (Split w₀.token Prompt))
          (.change ((keptAtPauses_split env w₀ Prompt).pass .checking)) fun _ =>
        .bind (Q := fun _ => w₀.Along (Split w₀.token Prompt)) (.look fun _ hw => hw)
          fun stopped => ?_
      cases stopped with
      | true => exact .change fun w hw => (hlagging w hw).note (Split.grows _) rfl fun _ => rfl
      | false =>
        exact Collector.untilStopped_meets
          (Collector.collect_meets (filing_fetching env w₀ p c) c fun k _ hk =>
            command_fetching env w₀ p c k hk)
          (fun w hw => (hw.of_eq rfl rfl).mono fun _ _ h => ⟨[], List.nil_sublist _, h⟩)
          (fun w hw => (hw.of_eq rfl rfl).mono fun _ _ h => h.lagging p)
          (fun w hw => World.Along.note (Split.grows _) rfl (fun _ => rfl) (hw.of_eq rfl rfl))
          fun w hw => hw.of_eq rfl rfl
    · exact .done hlagging

theorem deliver_lagging (e : ContainerEvent) :
    Keeps (w₀.Along (Split w₀.token (Lagging p))) (Task.race env (Observer.deliver env e)) :=
  race_lagging env w₀ p (.bind ((notify_lagging env w₀ p e).weaken (fun _ hw => hw.1)
    (fun _ _ hw => hw) fun _ hw => hw) fun _ => .change fun _ hw =>
      World.Along.note (Split.grows _) rfl (fun _ => rfl) (hw.of_eq rfl rfl))

theorem watch_lagging (n : Nat) (t : Tracker) :
    Keeps (w₀.Along (Split w₀.token (Lagging p))) (r.watch env p n t) :=
  r.watch_keeps (look_lagging env w₀ p) (Runner.deliverAll_keeps (deliver_lagging env w₀ p))
    (sleep_lagging env w₀ r p) n t

end

namespace Runner

variable (env : Surroundings σ) (r : Runner) (p : StepPod)

theorem run_meets_lagging (w₀ : World σ) :
    Meets (w₀.Along (Split w₀.token Uncalled)) (r.run env p)
      (fun _ => w₀.Along (Split w₀.token (Lagging p))) (w₀.Along (Split w₀.token (Lagging p))) := by
  have huncalled : ∀ w, w₀.Along (Split w₀.token Uncalled) w →
      w₀.Along (Split w₀.token (Lagging p)) w := fun w hw => hw.mono fun _ _ h => h.lagging p
  unfold run
  split
  · exact .bind (Q := fun _ => w₀.Along (Split w₀.token Uncalled))
      (.change fun w hw => hw.note (Split.grows _) rfl fun _ => rfl) fun _ => .done huncalled
  · refine .bind (Q := fun cancelled w => w₀.Along (Split w₀.token Uncalled) w ∧
      w.token.isCancelled = cancelled) ?_ fun cancelled => ?_
    · exact .bind (Q := fun _ => w₀.Along (Split w₀.token Uncalled))
        (.change ((keptAtPauses_split env w₀ Uncalled).pass .checking))
        fun _ => .look fun _ hw => ⟨hw, rfl⟩
    · cases cancelled with
      | true =>
        exact .bind (Q := fun _ => w₀.Along (Split w₀.token (Lagging p)))
          (.look fun w hw => huncalled w hw.1) fun _ => .done fun _ hw => hw
      | false =>
        refine .bind (createOrRestart_lagging env w₀ r p) fun created => ?_
        cases created with
        | error e => exact .done fun _ hw => hw
        | ok _ =>
          have hscopes := keptByScopes_split env w₀ (Lagging p)
          refine .ofKeeps (.bind (hscopes.opened _) fun _ => .bind (watch_lagging env w₀ r p _ _)
            fun result => .bind (hscopes.closeScope _) fun _ => .bind ?_ fun _ => .done _)
          cases result with
          | ok _ => exact .done ()
          | error e => exact .change fun _ hw => hw.note (Split.grows _) rfl fun _ => rfl

/-- Whatever the cluster answers and whenever the token is cancelled, only this is called behind the
cancellation: looks at a pod that is left over and the creation of the new one, or commands of one
collection. If the pod was created before, these are two calls at most. -/
theorem run_lagging (w : World σ) : ∃ log,
    (r.run env p w).2.journal = w.journal ++ log ∧
      Lagging p (earlyCalls w.token log) (lateCalls w.token log) ∧
      (.createPod p.pod ∈ earlyCalls w.token log → (lateCalls w.token log).length ≤ 2) := by
  obtain ⟨log, hjournal, -, hlog⟩ := (r.run_meets_lagging env p w).ends (.start w ⟨rfl, rfl⟩)
  exact ⟨log, hjournal, hlog, hlog.length_le p⟩

end Runner

/-! ## A wait that goes on -/

def lingeringAnswer (name : String) : Nat → Except ClientError Pod
  | 0 => .error (.notFound .pod name)
  | _ + 1 => .ok { metadata := { name := some name } }

/-- A cluster where a pod that was deleted is found for some more looks, and where someone cancels
the token at the deletion. -/
def lingering (patience : Nat) : Surroundings Nat where
  pods :=
    { create := fun pod n => (.ok pod, n)
      get := fun name n => (.answered (lingeringAnswer name n), n - 1)
      delete := fun _ n => (.ok (), n)
      deleteCollection := fun _ n => (.ok (), n)
      exec := fun _ _ _ n => (.ok (.bytes []), n) }
  secrets :=
    { get := fun name n => (.error (.notFound .secret name), n)
      create := fun secret n => (.ok secret, n)
      delete := fun _ n => (.ok (), n) }
  clock := fun _ => .midnight 0
  meanwhile := fun m _ n => match m with
    | .calling (.deletePod _) => (⟨false, [.cancel "stop"]⟩, n)
    | _ => (⟨false, []⟩, n)
  patience := patience

section

variable (r : Runner) (name : String) (patience : Nat)

theorem call_lingering (k : Nat) (w : World Nat) (hk : w.cluster = k) :
    ∃ w', Task.call (lingering patience) (.getPod name) ((lingering patience).pods.get name) w =
        (.returned (lingeringAnswer name k), w') ∧
      w'.cluster = k - 1 ∧ w'.token = w.token ∧
      ∃ problem, w'.journal =
        w.journal ++ [.called (.getPod name), .answered (.getPod name) problem] := by
  subst hk
  exact ⟨_, rfl, rfl, rfl, _, List.append_assoc _ _ _⟩

theorem sleep_lingering (looks : Nat) (w : World Nat) :
    r.sleep (lingering patience) looks w = (.returned (), w) := by
  unfold Runner.sleep
  split <;> rfl

theorem awaitGone_lingering (k n : Nat) (hn : k < n) (w : World Nat) (hk : w.cluster = k)
    (hc : w.token.isCancelled = true) :
    ∃ w' log, r.awaitGone (lingering patience) name n w = (.returned (.ok ()), w') ∧
      w'.journal = w.journal ++ log ∧
      lateCalls w.token log = List.replicate (k + 1) (.getPod name) := by
  have hcalls : ∀ t : Token, t.isCancelled = true → ∀ problem log,
      lateCalls t (.called (.getPod name) :: .answered (.getPod name) problem :: log) =
        .getPod name :: lateCalls t log := by
    intro t ht problem log
    simp only [lateCalls, callsWhile, Entry.signal, ht, if_true]
    rfl
  -- on the looks for which the pod is still found
  induction k generalizing n w with
  | zero =>
    obtain ⟨n, rfl⟩ : ∃ m, n = m + 1 := ⟨n - 1, by omega⟩
    obtain ⟨w', hcall, -, -, problem, hjournal⟩ := call_lingering name patience 0 w hk
    refine ⟨w', _, ?_, hjournal, hcalls _ hc _ _⟩
    rw [Runner.awaitGone, Task.bind_of_returned _ hcall]
    rfl
  | succ k ih =>
    obtain ⟨n, rfl⟩ : ∃ m, n = m + 1 := ⟨n - 1, by omega⟩
    obtain ⟨w', hcall, hcluster, htoken, problem, hjournal⟩ :=
      call_lingering name patience (k + 1) w hk
    obtain ⟨v, log, hgone, hv, hlate⟩ :=
      ih n (by omega) w' hcluster (by rw [htoken]; exact hc)
    refine ⟨v, .called (.getPod name) :: .answered (.getPod name) problem :: log, ?_, ?_, ?_⟩
    · rw [Runner.awaitGone, Task.bind_of_returned _ hcall]
      change (r.sleep (lingering patience) n >>= fun _ => r.awaitGone _ name n) w' = _
      rw [Task.bind_of_returned _ (sleep_lingering r patience n w')]
      exact hgone
    · rw [hv, hjournal, List.append_assoc]
      rfl
    · rw [htoken] at hlate
      rw [hcalls _ hc, hlate]
      rfl

end

namespace Runner

open Rehearsal (probe probeRunner)

/-- A run that is cancelled while it waits for a pod to go calls as often as that pod is found. -/
theorem run_lingering (k : Nat) : ∃ log,
    (probeRunner.run (lingering (k + 1)) probe (.start k .fresh .empty)).2.journal = log ∧
      k + 1 ≤ (lateCalls .fresh log).length := by
  have hruns := fun w₀ : World Nat =>
    keptByRuns_along_any (lingering (k + 1)) w₀ (S := fun _ => True) fun _ _ _ _ => trivial
  set w : World Nat := .start k .fresh .empty
  -- the deletion, at which the token is cancelled
  set w₁ : World Nat := { w with
    token := w.token.cancel "stop"
    journal := [.called (.deletePod "e2e-probe"), .cancelled "stop",
      .answered (.deletePod "e2e-probe") none] } with hw₁
  have hdelete : Task.call (lingering (k + 1)) (.deletePod probe.name)
      ((lingering (k + 1)).pods.delete probe.name) w = (.returned (.ok ()), w₁) := rfl
  obtain ⟨w₂, log, hgone, hjournal, hlate⟩ :=
    awaitGone_lingering probeRunner probe.name (k + 1) k (k + 1) (by omega) w₁ rfl rfl
  have hrestart : w₂.Behind (probeRunner.createOrRestart (lingering (k + 1)) probe w).2 := by
    rw [createOrRestart, Task.bind_of_returned _ hdelete]
    rw [show w₂ = (probeRunner.awaitGone (lingering (k + 1)) probe.name (k + 1) w₁).2 by rw [hgone]]
    refine Task.bind_behind _ (fun gone w₀ => ?_) w₁
    cases gone with
    | ok _ => exact (hruns w₀).create trivial
    | error e => exact .done _
  have hrun : (probeRunner.createOrRestart (lingering (k + 1)) probe w).2.Behind
      (probeRunner.run (lingering (k + 1)) probe w).2 := by
    have hcheck : Task.isCancelled (lingering (k + 1)) w = (.returned false, w) := rfl
    rw [run, if_neg (by decide), Task.bind_of_returned _ hcheck]
    refine Task.bind_behind _ (fun created w₀ => ?_) w
    cases created with
    | error e => exact .done _
    | ok _ =>
      exact .bind ((hruns w₀).opened _) fun _ => .bind ((hruns w₀).watch _ trivial _ _)
        fun result => .bind ((hruns w₀).closeScope _) fun _ =>
          .bind ((hruns w₀).report result) fun _ => .done _
  obtain ⟨created, hcreated, -, -⟩ := hrestart
  obtain ⟨ended, hended, -, -⟩ := hrun
  refine ⟨_, rfl, ?_⟩
  rw [hended, hcreated, hjournal, List.append_assoc, List.append_assoc, lateCalls,
    callsWhile_append, callsWhile_append]
  have htoken : tokenAfter .fresh w₁.journal = w₁.token := rfl
  rw [htoken, show callsWhile true w₁.token log = _ from hlate]
  simp only [List.length_append, List.length_replicate]
  omega

/-- No bound holds for the calls behind the cancellation. -/
theorem not_exists_lateCalls_le : ¬ ∃ bound, ∀ (env : Surroundings Nat) (r : Runner) (p : StepPod)
    (w : World Nat) (log : List Entry), r.dry = false →
      (r.run env p w).2.journal = w.journal ++ log → (lateCalls w.token log).length ≤ bound := by
  rintro ⟨bound, hbound⟩
  obtain ⟨log, hjournal, hlate⟩ := run_lingering bound
  have hle : (lateCalls .fresh log).length ≤ bound := hbound (lingering (bound + 1)) probeRunner
    probe (.start bound .fresh .empty) log rfl hjournal
  omega

end Runner

end StagedTests
