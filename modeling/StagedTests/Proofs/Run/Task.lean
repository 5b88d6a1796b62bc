import StagedTests.Run.Task

/-!
# What tasks keep

`Keeps I t` says that `I` still holds behind `t` whatever became of it, and `Leads P t Q` that `Q`
holds of the result where `t` began with `P` and returned. `Meets P t Q R` says besides that `R`
holds where it did not return; with nothing for `R`, the task returns. All follow the sequence of a
task's steps, so what a run keeps is read off what its single steps keep.
-/

namespace StagedTests

namespace Outcome

variable {α β : Type}

def isReturned : Outcome α → Bool
  | .returned _ => true
  | _ => false

def value? : Outcome α → Option α
  | .returned a => some a
  | _ => none

theorem value?_of_not_returned {o : Outcome α} (h : o.isReturned = false) : o.value? = none := by
  cases o with
  | returned a => cases h
  | dropped | abandoned | stalled => rfl

end Outcome

namespace Task

variable {σ α β : Type} {I : World σ → Prop}

theorem bind_of_returned {t : Task σ α} {w w₁ : World σ} {a : α} (f : α → Task σ β)
    (h : t w = (.returned a, w₁)) : (t >>= f) w = f a w₁ := by
  change andThen t f w = _
  simp only [andThen, h]

/-- A task that did not return ends everything that was to follow it. -/
theorem bind_of_not_returned {t : Task σ α} {w : World σ} (f : α → Task σ β)
    (h : (t w).1.isReturned = false) :
    ((t >>= f) w).1.isReturned = false ∧ ((t >>= f) w).2 = (t w).2 := by
  change (andThen t f w).1.isReturned = false ∧ (andThen t f w).2 = _
  unfold andThen
  split <;> simp_all [Outcome.isReturned]

theorem bind_congr {t t' : Task σ α} {w w' : World σ} (f : α → Task σ β) (h : t w = t' w') :
    (t >>= f) w = (t' >>= f) w' := by
  change andThen t f w = andThen t' f w'
  simp only [andThen, h]

theorem bind_assoc {γ : Type} (t : Task σ α) (f : α → Task σ β) (g : β → Task σ γ) :
    (t >>= f) >>= g = t >>= fun a => f a >>= g := by
  funext w
  change andThen (andThen t f) g w = andThen t (fun a => andThen (f a) g) w
  rcases h : t w with ⟨o, w₁⟩
  cases o <;> simp only [andThen, h]

theorem isReturned_iff (t : Task σ α) (w : World σ) :
    (t w).1.isReturned = true ↔ ∃ a w', t w = (.returned a, w') := by
  rcases ht : t w with ⟨o, w'⟩
  cases o <;> simp [Outcome.isReturned]

theorem bind_eq_returned {t : Task σ α} {f : α → Task σ β} {w w' : World σ} {b : β}
    (h : (t >>= f) w = (.returned b, w')) :
    ∃ a w₁, t w = (.returned a, w₁) ∧ f a w₁ = (.returned b, w') := by
  rcases ht : t w with ⟨o, w₁⟩
  cases o with
  | returned a => exact ⟨a, w₁, rfl, (bind_of_returned f ht).symm.trans h⟩
  | dropped | abandoned | stalled =>
    have := (bind_of_not_returned f (w := w) (t := t) (by rw [ht]; rfl)).1
    rw [h] at this
    cases this

theorem effect_eq_returned {c : Call} {op : σ → Reply α × σ} {w w' : World σ} {reply : Reply α}
    (h : effect c op w = (.returned reply, w')) : w.answer c op = (reply, w') := by
  rcases ha : w.answer c op with ⟨reply', w₁⟩
  simp only [effect, ha] at h
  cases h
  rfl

theorem race_eq (env : Surroundings σ) (t : Task σ α) (w : World σ) :
    race env t w =
      if (pass env .checking w).2.token.isCancelled then (.returned none, (pass env .checking w).2)
      else untilCancelled t (pass env .checking w).2 := by
  have hlook : isCancelled env w =
      (.returned (pass env .checking w).2.token.isCancelled, (pass env .checking w).2) := rfl
  rw [race, bind_of_returned _ hlook]
  split <;> rfl

/-- A race comes to nothing if the token is cancelled before it or the task is dropped. -/
theorem race_eq_returned {env : Surroundings σ} {t : Task σ α} {w w' : World σ} {o : Option α}
    (h : race env t w = (.returned o, w')) :
    (o = none ∧ w' = (pass env .checking w).2) ∨
    (∃ w₂, o = none ∧ t { (pass env .checking w).2 with racing := true } = (.dropped, w₂) ∧
      w' = { w₂ with racing := false, collecting := false }) ∨
    ∃ a w₂, o = some a ∧ t { (pass env .checking w).2 with racing := true } = (.returned a, w₂) ∧
      w' = { w₂ with racing := false } := by
  rw [race_eq] at h
  split at h
  · cases h
    exact .inl ⟨rfl, rfl⟩
  · unfold untilCancelled at h
    rcases ht : t { (pass env .checking w).2 with racing := true } with ⟨o₂, w₂⟩
    rw [ht] at h
    cases o₂ with
    | returned a => cases h; exact .inr (.inr ⟨a, w₂, rfl, rfl, rfl⟩)
    | dropped => cases h; exact .inr (.inl ⟨w₂, rfl, rfl, rfl⟩)
    | abandoned | stalled => cases h

/-! ## What is kept whatever comes of a task -/

def Keeps (I : World σ → Prop) (t : Task σ α) : Prop := ∀ w, I w → I (t w).2

namespace Keeps

theorem done (a : α) : Keeps I (pure a : Task σ α) := fun _ h => h

theorem bind {t : Task σ α} {f : α → Task σ β} (ht : Keeps I t) (hf : ∀ a, Keeps I (f a)) :
    Keeps I (t >>= f) := by
  intro w hw
  rcases h : t w with ⟨o, w₁⟩
  have hw₁ : I w₁ := by simpa only [h] using ht w hw
  cases o with
  | returned a => rw [bind_of_returned f h]; exact hf a w₁ hw₁
  | dropped | abandoned | stalled =>
    rw [(bind_of_not_returned f (by rw [h]; rfl)).2, h]; exact hw₁

theorem change {f : World σ → World σ} (h : ∀ w, I w → I (f w)) : Keeps I (change f) := h

theorem look (f : World σ → α) : Keeps I (Task.look f) := fun _ h => h

theorem stall : Keeps I (Task.stall : Task σ α) := fun _ h => h

theorem of_forall {ι : Type} {J : ι → World σ → Prop} {t : Task σ α} (h : ∀ i, Keeps (J i) t) :
    Keeps (fun w => ∃ i, J i w) t := fun w ⟨i, hw⟩ => ⟨i, h i w hw⟩

theorem returned {t : Task σ α} (ht : Keeps I t) {w w' : World σ} {o : Outcome α} (hw : I w)
    (h : t w = (o, w')) : I w' := by
  have := ht w hw
  rwa [h] at this

end Keeps

/-! ## What is known where a task returns -/

/-- Where the task begins with `P` and returns, `Q` holds of its result and the world behind it. -/
def Leads (P : World σ → Prop) (t : Task σ α) (Q : α → World σ → Prop) : Prop :=
  ∀ w a w', P w → t w = (.returned a, w') → Q a w'

namespace Leads

variable {P P' : World σ → Prop} {Q Q' : α → World σ → Prop} {R : β → World σ → Prop}

theorem done {a : α} (h : ∀ w, P w → Q a w) : Leads P (pure a) Q := by
  intro w b w' hw heq
  cases heq
  exact h w hw

theorem bind {t : Task σ α} {f : α → Task σ β} (ht : Leads P t Q)
    (hf : ∀ a, Leads (Q a) (f a) R) : Leads P (t >>= f) R := by
  intro w b w' hw h
  obtain ⟨a, w₁, h₁, h₂⟩ := bind_eq_returned h
  exact hf a w₁ b w' (ht w a w₁ hw h₁) h₂

theorem any {t : Task σ α} : Leads P t fun _ _ => True := fun _ _ _ _ _ => trivial

theorem frame {p : Prop} {t : Task σ α} : Leads (fun _ => p) t fun _ _ => p := fun _ _ _ h _ => h

theorem and {t : Task σ α} (h : Leads P t Q) (h' : Leads P' t Q') :
    Leads (fun w => P w ∧ P' w) t fun a w => Q a w ∧ Q' a w :=
  fun w a w' hw heq => ⟨h w a w' hw.1 heq, h' w a w' hw.2 heq⟩

theorem weaken {t : Task σ α} (ht : Leads P t Q) (hP : ∀ w, P' w → P w)
    (hQ : ∀ a w, Q a w → Q' a w) : Leads P' t Q' :=
  fun w a w' hw h => hQ a w' (ht w a w' (hP w hw) h)

theorem change {f : World σ → World σ} {Q : Unit → World σ → Prop} (h : ∀ w, P w → Q () (f w)) :
    Leads P (Task.change f) Q := by
  intro w _ w' hw heq
  cases heq
  exact h w hw

theorem look {f : World σ → α} (h : ∀ w, P w → Q (f w) w) : Leads P (Task.look f) Q := by
  intro w a w' hw heq
  cases heq
  exact h w hw

theorem stall : Leads P (Task.stall : Task σ α) Q := by
  intro w a w' _ heq
  cases heq

theorem hang (env : Surroundings σ) (n : Nat) : Leads P (Task.hang env n : Task σ α) Q := by
  induction n generalizing P with
  | zero => exact .stall
  | succ n ih => exact .bind .any fun _ => ih

theorem ofKeeps {t : Task σ α} (h : Keeps I t) : Leads I t fun _ => I :=
  fun _ _ _ hw heq => h.returned hw heq

end Leads

/-! ## What is known whether or not a task returns -/

/-- Where the task begins with `P`, `Q` holds of its result and the world behind it if it returns,
and `R` holds of the world behind it if it does not. -/
def Meets (P : World σ → Prop) (t : Task σ α) (Q : α → World σ → Prop) (R : World σ → Prop) : Prop :=
  ∀ w, P w → (∀ a w', t w = (.returned a, w') → Q a w') ∧
    ((t w).1.isReturned = false → R (t w).2)

namespace Meets

variable {P P' R R' : World σ → Prop} {Q Q' : α → World σ → Prop} {S : β → World σ → Prop}

theorem done {a : α} (h : ∀ w, P w → Q a w) : Meets P (pure a) Q R := by
  intro w hw
  refine ⟨fun b w' heq => ?_, fun hr => nomatch hr⟩
  cases heq
  exact h w hw

theorem bind {t : Task σ α} {f : α → Task σ β} (ht : Meets P t Q R)
    (hf : ∀ a, Meets (Q a) (f a) S R) : Meets P (t >>= f) S R := by
  intro w hw
  obtain ⟨hreturned, hended⟩ := ht w hw
  rcases h : t w with ⟨o, w₁⟩
  cases o with
  | returned a =>
    rw [bind_of_returned f h]
    exact hf a w₁ (hreturned a w₁ h)
  | dropped | abandoned | stalled =>
    have hnot : (t w).1.isReturned = false := by rw [h]; rfl
    obtain ⟨hnot', hw'⟩ := bind_of_not_returned f hnot
    refine ⟨fun b w' heq => ?_, fun _ => ?_⟩
    · rw [heq] at hnot'
      cases hnot'
    · rw [hw']
      exact hended hnot

theorem weaken {t : Task σ α} (ht : Meets P t Q R) (hP : ∀ w, P' w → P w)
    (hQ : ∀ a w, Q a w → Q' a w) (hR : ∀ w, R w → R' w) : Meets P' t Q' R' := by
  intro w hw
  obtain ⟨hreturned, hended⟩ := ht w (hP w hw)
  exact ⟨fun a w' h => hQ a w' (hreturned a w' h), fun h => hR _ (hended h)⟩

theorem change {f : World σ → World σ} {Q : Unit → World σ → Prop} (h : ∀ w, P w → Q () (f w)) :
    Meets P (Task.change f) Q R := by
  intro w hw
  refine ⟨fun a w' heq => ?_, fun hr => nomatch hr⟩
  cases heq
  exact h w hw

theorem look {f : World σ → α} (h : ∀ w, P w → Q (f w) w) : Meets P (Task.look f) Q R := by
  intro w hw
  refine ⟨fun a w' heq => ?_, fun hr => nomatch hr⟩
  cases heq
  exact h w hw

theorem ofKeeps {t : Task σ α} (h : Keeps I t) : Meets I t (fun _ => I) I :=
  fun w hw => ⟨fun _ _ heq => h.returned hw heq, fun _ => h w hw⟩

theorem of_exists {ι : Type} {P : ι → World σ → Prop} {t : Task σ α}
    (h : ∀ i, Meets (P i) t Q R) : Meets (fun w => ∃ i, P i w) t Q R := fun w ⟨i, hw⟩ => h i w hw

theorem known {p : Prop} {t : Task σ α} (h : p → Meets P t Q R) :
    Meets (fun w => P w ∧ p) t Q R := fun w hw => h hw.2 w hw.1

theorem ends {t : Task σ α} (h : Meets P t (fun _ => I) I) {w : World σ} (hw : P w) :
    I (t w).2 := by
  obtain ⟨hreturned, hended⟩ := h w hw
  rcases ht : t w with ⟨o, w'⟩
  cases o with
  | returned a => exact hreturned a w' ht
  | dropped | abandoned | stalled =>
    rw [ht] at hended
    exact hended rfl

theorem keeps {t : Task σ α} (h : Meets I t (fun _ => I) I) : Keeps I t := fun _ hw => h.ends hw

theorem leads {t : Task σ α} (h : Meets P t Q R) : Leads P t Q :=
  fun w a w' hw heq => (h w hw).1 a w' heq

/-- A task of which nothing can be said where it does not return does return. -/
theorem returns {t : Task σ α} (h : Meets P t Q fun _ => False) {w : World σ} (hw : P w) :
    ∃ a w', t w = (.returned a, w') ∧ Q a w' := by
  obtain ⟨hreturned, hended⟩ := h w hw
  cases hr : (t w).1.isReturned with
  | true =>
    obtain ⟨a, w', heq⟩ := (isReturned_iff t w).mp hr
    exact ⟨a, w', heq, hreturned a w' heq⟩
  | false => exact absurd (hended hr) not_false

end Meets

/-- The task returns where it begins with `P`, and `Q` holds of its result and the world behind it. -/
abbrev Returns (P : World σ → Prop) (t : Task σ α) (Q : α → World σ → Prop) : Prop :=
  Meets P t Q fun _ => False

theorem Leads.meets_keeps {t : Task σ α} {Q : α → World σ → Prop} (h : Leads I t Q)
    (hk : Keeps I t) : Meets I t Q I :=
  fun w hw => ⟨fun a w' heq => h w a w' hw heq, fun _ => hk w hw⟩

theorem Leads.meets {P : World σ → Prop} {t : Task σ α} {Q : α → World σ → Prop} (h : Leads P t Q) :
    Meets P t Q fun _ => True :=
  fun w hw => ⟨fun a w' heq => h w a w' hw heq, fun _ => trivial⟩

end Task

end StagedTests
