import StagedTests.Parameter

/-!
# Asking for deferred parameters

Asking for a parameter answers from what is set or kept, or asks the provider and keeps a value that
it gives. Nothing else changes: in particular the links stay, since a value that is kept is not one
that is set.
-/

namespace StagedTests.DeferredParameters

variable {σ : Type} (p : DeferredParameters σ) (name : String) (s : σ)

/-- A parameter whose value must be asked for: it is neither set nor kept. -/
def IsOpen : Prop := p.values.get? name = none ∧ p.resolved.get? name = none

theorem get_cases :
    (∃ value, (p.values.get? name = some value ∨
        p.values.get? name = none ∧ p.resolved.get? name = some value) ∧
      p.get name s = (.ok value, p, s)) ∨
    (p.IsOpen name ∧ p.providers.get? name = none ∧
      p.get name s = (.error (.unknown name), p, s)) ∨
    (p.IsOpen name ∧ ∃ f, p.providers.get? name = some f ∧ ∃ reason after,
      f s = (.error reason, after) ∧ p.get name s = (.error (.failed name reason), p, after)) ∨
    (p.IsOpen name ∧ ∃ f, p.providers.get? name = some f ∧ ∃ value after,
      f s = (.ok value, after) ∧
        p.get name s = (.ok value, { p with resolved := p.resolved.insert name value }, after)) := by
  unfold get IsOpen
  cases hset : p.values.get? name with
  | some value => exact .inl ⟨value, .inl rfl, rfl⟩
  | none =>
    cases hkept : p.resolved.get? name with
    | some value => exact .inl ⟨value, .inr ⟨rfl, rfl⟩, rfl⟩
    | none =>
      cases hprovider : p.providers.get? name with
      | none => exact .inr (.inl ⟨⟨rfl, rfl⟩, rfl, rfl⟩)
      | some f =>
        cases hanswer : f s with
        | mk answer after =>
          cases answer with
          | error reason =>
            refine .inr (.inr (.inl ⟨⟨rfl, rfl⟩, f, rfl, reason, after, hanswer, ?_⟩))
            simp only [hanswer]
          | ok value =>
            refine .inr (.inr (.inr ⟨⟨rfl, rfl⟩, f, rfl, value, after, hanswer, ?_⟩))
            simp only [hanswer]

structure SameButKept (p q : DeferredParameters σ) : Prop where
  values : q.values = p.values
  providers : q.providers = p.providers
  linkLists : q.linkLists = p.linkLists

theorem SameButKept.links {p q : DeferredParameters σ} (h : SameButKept p q) (name : String) :
    q.links name = p.links name := by
  rw [DeferredParameters.links, h.values, h.linkLists]
  rfl

theorem get_keeps : SameButKept p (p.get name s).2.1 := by
  rcases p.get_cases name s with
    ⟨_, -, h⟩ | ⟨-, -, h⟩ | ⟨-, _, -, _, _, -, h⟩ | ⟨-, _, -, _, _, -, h⟩
  all_goals
    rw [h]
    exact ⟨rfl, rfl, rfl⟩

def askAll (names : List String) (state : DeferredParameters σ × σ) : DeferredParameters σ × σ :=
  names.foldl (fun state name => (state.1.get name state.2).2) state

theorem askAll_keeps (names : List String) (state : DeferredParameters σ × σ) :
    SameButKept state.1 (askAll names state).1 := by
  induction names generalizing state with
  | nil => exact ⟨rfl, rfl, rfl⟩
  | cons name names ih =>
    have hfirst := state.1.get_keeps name state.2
    have hrest := ih (state.1.get name state.2).2
    exact ⟨hrest.values.trans hfirst.values, hrest.providers.trans hfirst.providers,
      hrest.linkLists.trans hfirst.linkLists⟩

end StagedTests.DeferredParameters
