import StagedTests.Proofs.Run.Log

/-!
# How tasks are broken off

A task that does not return was dropped, and then the token is cancelled; or it was abandoned, which
only happens within a collection; or it waits for what does not come. So what is known of a run that
nobody cancels is known up to calls that are never answered.
-/

namespace StagedTests

variable {σ α β : Type}

open StagedTests.Task (Keeps Leads Meets)

/-! ## Runs that nobody cancels -/

def OrCancelled (P : World σ → Prop) (w : World σ) : Prop := w.token.isCancelled = true ∨ P w

theorem OrCancelled.imp {P Q : World σ → Prop} {w v : World σ} (h : OrCancelled P w)
    (htoken : v.token = w.token) (hPQ : P w → Q v) : OrCancelled Q v :=
  Or.imp (fun hc => by rwa [htoken]) hPQ h

theorem World.Along.isCancelled {S : List Entry → Prop} {w v : World σ} (h : w.Along S v)
    (hw : w.token.isCancelled = true) : v.token.isCancelled = true := by
  obtain ⟨log, -, htoken, -⟩ := h
  rw [htoken, tokenAfter_of_isCancelled hw]
  exact hw

/-- A run does not take the cancellation of the token back. -/
theorem keptByRuns_cancelled (env : Surroundings σ) :
    KeptByRuns env Call.Any fun w => w.token.isCancelled = true :=
  have h := fun w : World σ => keptByRuns_along_any env w (S := fun _ => True) fun _ _ _ _ => trivial
  { meanwhile := fun _ _ hw => hw
    happen := fun x w hw => ((h w).happen x w (.self w)).isCancelled hw
    commands := fun _ _ _ => trivial
    called := fun _ _ _ hw => hw
    warned := fun _ _ hw => hw
    getPod := fun name w hc hw => ((h w).getPod name w hc (.self w)).isCancelled hw
    deletePod := fun name w hc hw => ((h w).deletePod name w hc (.self w)).isCancelled hw
    exec := fun pod container words w hw =>
      ((h w).exec pod container words w (.self w)).isCancelled hw
    disk := fun _ _ hw => hw
    racing := fun _ _ hw => hw
    collecting := fun _ _ hw => hw
    nested := fun _ _ hw => hw
    delivered := fun _ _ hw => hw
    createPod := fun p w hc hw => ((h w).createPod p w hc (.self w)).isCancelled hw
    opened := fun _ _ hw => hw
    closing := fun _ _ hw => hw
    closed := fun _ _ hw => hw
    dropped := fun _ hw => hw
    recorded := fun _ _ _ _ hw => hw }

section

variable {P R : World σ → Prop} {Q : α → World σ → Prop}

/-- What is said of the runs that nobody cancels is true of all runs up to the cancellation. -/
theorem Task.Meets.orCancelled {t : Task σ α}
    (hkept : Keeps (fun w => w.token.isCancelled = true) t)
    (h : Meets P t (fun a => OrCancelled (Q a)) (OrCancelled R)) :
    Meets (OrCancelled P) t (fun a => OrCancelled (Q a)) (OrCancelled R) := by
  rintro w (hw | hw)
  · exact ⟨fun a w' heq => .inl (hkept.returned hw heq), fun _ => .inl (hkept w hw)⟩
  · exact h w hw

/-- While nobody cancels the token, watchers do no more than let themselves go. -/
theorem KeptAtPauses.orCancelled {env : Surroundings σ} {I : World σ → Prop}
    (hmeanwhile : ∀ m w, I w →
      I { w with cluster := (env.meanwhile m w.watchers.length w.cluster).2 })
    (hturn : ∀ i w, I w → w.token.isCancelled = false → I (env.turn w i))
    (hstopped : ∀ now w, I w → I { w with observer := w.observer.cancel now }) :
    KeptAtPauses env (OrCancelled I) where
  meanwhile := fun m w hw => Or.imp id (hmeanwhile m w) hw
  happen := fun x w hw => by
    rcases hw with hc | hw
    · exact .inl ((keptByRuns_cancelled env).happen x w hc)
    · cases x with
      | cancel reason =>
        refine .inl ?_
        change (w.cancel reason).token.isCancelled = true
        unfold World.cancel
        split
        · assumption
        · exact Token.isCancelled_cancel _ _
      | turn i =>
        cases hc : w.token.isCancelled with
        | true => exact .inl ((keptByRuns_cancelled env).happen (.turn i) w hc)
        | false => exact .inr (hturn i w hw hc)
      | cancelObserver => exact .inr (hstopped _ w hw)

end

/-! ## Ways of being broken off -/

/-- The token is cancelled if the task was dropped, `A` holds if it was abandoned, and `S` if it never
ends. -/
def BrokenOff (A S : World σ → Prop) : Outcome α × World σ → Prop
  | (.returned _, _) => True
  | (.dropped, w) => w.token.isCancelled = true
  | (.abandoned, w) => A w
  | (.stalled, w) => S w

def Task.Breaks (A S : World σ → Prop) (t : Task σ α) : Prop := ∀ w, BrokenOff A S (t w)

namespace Task.Breaks

variable {A S : World σ → Prop} {t : Task σ α}

theorem done (a : α) : Breaks A S (pure a : Task σ α) := fun _ => trivial

theorem change (f : World σ → World σ) : Breaks A S (Task.change f) := fun _ => trivial

theorem look (f : World σ → α) : Breaks A S (Task.look f) := fun _ => trivial

theorem bind {f : α → Task σ β} (ht : Breaks A S t) (hf : ∀ a, Breaks A S (f a)) :
    Breaks A S (t >>= f) := by
  intro w
  have htw := ht w
  rcases h : t w with ⟨o, w₁⟩
  rw [h] at htw
  cases o with
  | returned a => rw [bind_of_returned f h]; exact hf a w₁
  | dropped | abandoned | stalled =>
    change BrokenOff A S (andThen t f w)
    simp only [andThen, h]
    exact htw

end Task.Breaks

def World.Collecting (w : World σ) : Prop := w.collecting = true

namespace Task

variable {S : World σ → Prop}

theorem pause_breaks (env : Surroundings σ) (m : Moment) :
    Breaks World.Collecting S (pause env m) := by
  intro w
  simp only [pause, resume]
  generalize (env.meanwhile m w.watchers.length w.cluster).1.happenings.foldl env.happen
    { w with cluster := (env.meanwhile m w.watchers.length w.cluster).2 } = v
  split
  · split <;> rename_i hdropped
    · exact (Bool.and_eq_true_iff.mp hdropped).2
    · split <;> rename_i habandoned
      · exact (Bool.and_eq_true_iff.mp habandoned).1
      · trivial
  · trivial

theorem hang_breaks {env : Surroundings σ} (hS : KeptAtPauses env S) (n : Nat) {w : World σ}
    (hw : S w) : BrokenOff World.Collecting S ((hang env n : Task σ α) w) := by
  induction n generalizing w with
  | zero => exact hw
  | succ n ih =>
    have hpause := pause_breaks (S := S) env .hanging w
    have hkept := hS.pause .hanging w hw
    change BrokenOff _ S (andThen (pause env .hanging) (fun _ => hang env n) w)
    unfold andThen
    rcases heq : pause env .hanging w with ⟨o, v⟩
    rw [heq] at hpause hkept
    cases o with
    | returned _ => exact ih hkept
    | dropped | abandoned | stalled => exact hpause

theorem call_breaks {env : Surroundings σ} (hS : KeptAtPauses env S) {c : Call}
    {op : σ → Reply α × σ} (hop : ∀ w v : World σ, w.answer c op = (Reply.hangs, v) → S v) :
    Breaks World.Collecting S (call env c op) := by
  refine .bind (.change _) fun _ => .bind (pause_breaks env _) fun _ w => ?_
  rcases h : w.answer c op with ⟨reply, v⟩
  have heffect : effect c op w = (.returned reply, v) := by simp only [effect, h]
  rw [bind_of_returned _ heffect]
  cases reply with
  | answered answer => trivial
  | hangs => exact hang_breaks hS env.patience (hop w v h)

end Task

/-! ## Observing a pod -/

section

variable {env : Surroundings σ} {S : World σ → Prop}

open StagedTests.Task (Breaks)

theorem Collector.unpack_breaks (directory : Path) (output : CommandOutput) :
    Breaks World.Collecting S (Collector.unpack env directory output) := by
  have hedit : ∀ {γ : Type} (f : Disk → Disk × γ), Breaks World.Collecting S
      (Task.editDisk f : Task σ γ) := fun _ _ => trivial
  refine .bind (hedit _) fun made => .bind (Task.pause_breaks env _) fun _ => ?_
  cases made with
  | false => exact .done _
  | true =>
    refine .bind (hedit _) fun written => .bind (Task.pause_breaks env _) fun _ => ?_
    cases written with
    | false => exact .done _
    | true =>
      refine .bind (hedit _) fun unpacked => .bind (Task.pause_breaks env _) fun _ =>
        .bind (hedit _) fun removed => .bind (Task.pause_breaks env _) fun _ => ?_
      cases removed with
      | false => exact .done _
      | true => cases unpacked <;> exact .done _

variable (hcommand : ∀ (c : Collector) words, Breaks World.Collecting S (c.command env words))
include hcommand

theorem Collector.collect_breaks (c : Collector) :
    Breaks World.Collecting S (c.collect env) := by
  have hrelease : Breaks World.Collecting S (c.release env) := by
    refine .bind (hcommand c _) fun answer => ?_
    cases answer with
    | ok _ => exact .done ()
    | error e => exact .change _
  unfold Collector.collect
  cases c.directory with
  | none => exact hrelease
  | some directory =>
    have hfetch : Breaks World.Collecting S (c.fetch env directory) := by
      refine .bind (hcommand c _) fun answer => ?_
      cases answer with
      | error e => exact .done _
      | ok output => exact Collector.unpack_breaks directory output
    refine .bind hfetch fun answer => ?_
    cases answer with
    | ok _ => exact hrelease
    | error e => exact .bind (.change _) fun _ => hrelease

theorem Observer.notify_breaks (e : ContainerEvent) :
    Breaks (fun _ => False) S (Observer.notify env e) := by
  refine .bind (.look _) fun nested => ?_
  cases nested with
  | silent | tally _ _ => exact .done ()
  | collector c =>
    dsimp only
    unfold Collector.observe
    split
    · refine .bind (.change _) fun _ => .bind (.change _) fun _ => .bind (.look _) fun stopped => ?_
      cases stopped with
      | true => exact .change _
      | false =>
        intro w
        have hw := Collector.collect_breaks hcommand c { w with collecting := true }
        simp only [if_false, Bool.false_eq_true, Collector.untilStopped]
        rcases heq : c.collect env { w with collecting := true } with ⟨o, v⟩
        rw [heq] at hw
        cases o with
        -- what is abandoned is the collection, not the one who is told
        | returned a | abandoned => trivial
        | dropped | stalled => exact hw
    · exact .done ()

theorem Observer.deliver_breaks (e : ContainerEvent) :
    Breaks (fun _ => False) S (Observer.deliver env e) :=
  .bind (Observer.notify_breaks hcommand e) fun _ => .change _

end

end StagedTests
