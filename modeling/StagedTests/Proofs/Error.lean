import StagedTests.Error

/-!
# The leaves of gathered errors

A list of errors whose members may be lists themselves is a tree; its leaves are the errors that
are no lists. Flattening gives the leaves from left to right, each at its place. The result of a
gathering says whether there is a leaf, unless nothing but lists without a leaf was gathered: such
a gathering counts as a failure of which no error is left.
-/

namespace StagedTests.TestError

/-- An error that is no list of others. A mark does not open what is behind it. -/
def IsLeaf : TestError → Prop
  | .aggregate _ => False
  | _ => True

/-- The error is a leaf of what was gathered, at whatever depth. -/
inductive LeafOf (e : TestError) : List TestError → Prop
  | here {errors : List TestError} (hmem : e ∈ errors) (hleaf : e.IsLeaf) : LeafOf e errors
  | within {errors members : List TestError} (hmem : .aggregate members ∈ errors)
      (h : LeafOf e members) : LeafOf e errors

/-- What was gathered, and its leaves from left to right. -/
inductive Leaves : List TestError → List TestError → Prop
  | nil : Leaves [] []
  | leaf {e : TestError} {rest leaves : List TestError} (he : e.IsLeaf) (h : Leaves rest leaves) :
      Leaves (e :: rest) (e :: leaves)
  | inner {members rest inside leaves : List TestError} (hinner : Leaves members inside)
      (h : Leaves rest leaves) : Leaves (.aggregate members :: rest) (inside ++ leaves)

theorem isLeaf_iff {e : TestError} : e.IsLeaf ↔ ∀ members, e ≠ .aggregate members := by
  cases e <;> simp [IsLeaf]

theorem spread_of_isLeaf {e : TestError} (h : e.IsLeaf) : e.spread = [e] := by
  cases e with
  | aggregate members => exact h.elim
  | configuration _ | synthesis _ | execution _ | resultsSecret _ _ | inPhase _ _ _ => rfl

theorem Leaves.eq_flatten {errors leaves : List TestError} (h : Leaves errors leaves) :
    leaves = flatten errors := by
  induction h with
  | nil => rfl
  | leaf he _ ih => rw [flatten, spread_of_isLeaf he, List.singleton_append, ← ih]
  | inner _ _ ihinner ih => rw [flatten, spread, ← ihinner, ← ih]

-- An error and a list of errors are taken apart together, as `spread` and `flatten` are.
mutual

theorem leaves_cons : ∀ (e : TestError) {rest leaves : List TestError}, Leaves rest leaves →
    Leaves (e :: rest) (e.spread ++ leaves)
  | .configuration _, _, _, h | .synthesis _, _, _, h | .execution _, _, _, h
  | .resultsSecret _ _, _, _, h | .inPhase _ _ _, _, _, h => .leaf trivial h
  | .aggregate members, _, _, h => .inner (leaves_flatten members) h

theorem leaves_flatten : ∀ errors : List TestError, Leaves errors (flatten errors)
  | [] => .nil
  | e :: rest => leaves_cons e (leaves_flatten rest)

end

theorem leaves_iff {errors leaves : List TestError} :
    Leaves errors leaves ↔ leaves = flatten errors :=
  ⟨Leaves.eq_flatten, fun h => h ▸ leaves_flatten errors⟩

theorem leafOf_nil {e : TestError} : ¬ LeafOf e [] := by
  rintro (⟨hmem, -⟩ | ⟨hmem, -⟩) <;> cases hmem

theorem leafOf_cons_of_isLeaf {e a : TestError} {rest : List TestError} (ha : a.IsLeaf) :
    LeafOf e (a :: rest) ↔ e = a ∨ LeafOf e rest := by
  constructor
  · rintro (⟨hmem, he⟩ | ⟨hmem, h⟩) <;> rcases List.mem_cons.mp hmem with heq | hmem
    · exact .inl heq
    · exact .inr (.here hmem he)
    · exact (heq ▸ ha : IsLeaf (.aggregate _)).elim
    · exact .inr (.within hmem h)
  · rintro (rfl | ⟨hmem, he⟩ | ⟨hmem, h⟩)
    · exact .here List.mem_cons_self ha
    · exact .here (List.mem_cons_of_mem _ hmem) he
    · exact .within (List.mem_cons_of_mem _ hmem) h

theorem leafOf_cons_aggregate {e : TestError} {members rest : List TestError} :
    LeafOf e (.aggregate members :: rest) ↔ LeafOf e members ∨ LeafOf e rest := by
  constructor
  · rintro (⟨hmem, he⟩ | ⟨hmem, h⟩) <;> rcases List.mem_cons.mp hmem with heq | hmem
    · exact (heq ▸ he : IsLeaf (.aggregate members)).elim
    · exact .inr (.here hmem he)
    · cases heq
      exact .inl h
    · exact .inr (.within hmem h)
  · rintro (h | ⟨hmem, he⟩ | ⟨hmem, h⟩)
    · exact .within List.mem_cons_self h
    · exact .here (List.mem_cons_of_mem _ hmem) he
    · exact .within (List.mem_cons_of_mem _ hmem) h

theorem Leaves.mem_iff {errors leaves : List TestError} (h : Leaves errors leaves)
    (e : TestError) : e ∈ leaves ↔ LeafOf e errors := by
  induction h with
  | nil => simp [leafOf_nil]
  | leaf ha _ ih => rw [List.mem_cons, ih, leafOf_cons_of_isLeaf ha]
  | inner _ _ ihinner ih => rw [List.mem_append, ihinner, ih, leafOf_cons_aggregate]

theorem mem_flatten_iff {e : TestError} {errors : List TestError} :
    e ∈ flatten errors ↔ LeafOf e errors :=
  (leaves_flatten errors).mem_iff e

theorem Leaves.isLeaf {errors leaves : List TestError} (h : Leaves errors leaves) :
    ∀ e ∈ leaves, e.IsLeaf := by
  induction h with
  | nil => simp
  | leaf he _ ih => exact List.forall_mem_cons.mpr ⟨he, ih⟩
  | inner _ _ ihinner ih => exact List.forall_mem_append.mpr ⟨ihinner, ih⟩

theorem flatten_of_leaves {errors : List TestError} (h : ∀ e ∈ errors, e.IsLeaf) :
    flatten errors = errors := by
  induction errors with
  | nil => rfl
  | cons e rest ih =>
    obtain ⟨he, hrest⟩ := List.forall_mem_cons.mp h
    rw [flatten, spread_of_isLeaf he, ih hrest, List.singleton_append]

theorem flatten_append (as bs : List TestError) :
    flatten (as ++ bs) = flatten as ++ flatten bs := by
  induction as with
  | nil => rfl
  | cons e rest ih => rw [List.cons_append, flatten, flatten, ih, List.append_assoc]

theorem flatten_ne_nil_iff {errors : List TestError} :
    flatten errors ≠ [] ↔ ∃ e, LeafOf e errors := by
  constructor
  · intro h
    obtain ⟨e, he⟩ := List.exists_mem_of_ne_nil _ h
    exact ⟨e, mem_flatten_iff.mp he⟩
  · rintro ⟨e, he⟩
    exact List.ne_nil_of_mem (mem_flatten_iff.mpr he)

/-- What a result is to say of what was gathered: success if there is no leaf, otherwise the
leaves, of which there is one at least. -/
structure Settles (errors : List TestError) (result : Except (List TestError) Unit) : Prop where
  ok_iff : result = .ok () ↔ ¬ ∃ e, LeafOf e errors
  leaves : ∀ members, result = .error members → Leaves errors members
  ne_nil : ∀ members, result = .error members → members ≠ []

theorem settles_nil : Settles [] (.ok ()) where
  ok_iff := iff_of_true rfl fun ⟨_, h⟩ => leafOf_nil h
  leaves := nofun
  ne_nil := nofun

theorem settles_flatten {errors : List TestError} (h : ∃ e, LeafOf e errors) :
    Settles errors (.error (flatten errors)) where
  ok_iff := iff_of_false nofun (not_not_intro h)
  leaves := by
    rintro _ ⟨⟩
    exact leaves_flatten errors
  ne_nil := by
    rintro _ ⟨⟩
    exact flatten_ne_nil_iff.mpr h

theorem resultOf_of_ne_nil {errors : List TestError} (h : errors ≠ []) :
    resultOf errors = .error (flatten errors) := by
  rw [resultOf, List.isEmpty_eq_false_iff.mpr h]
  rfl

/-- The result settles a gathering exactly if nothing was gathered or there is a leaf. Otherwise
it is a failure without an error. -/
theorem resultOf_settles_iff (errors : List TestError) :
    (Settles errors (resultOf errors) ↔ errors = [] ∨ ∃ e, LeafOf e errors) ∧
      (errors ≠ [] → (¬ ∃ e, LeafOf e errors) → resultOf errors = .error []) := by
  by_cases hnil : errors = []
  · subst hnil
    exact ⟨iff_of_true settles_nil (.inl rfl), fun h => absurd rfl h⟩
  · rw [resultOf_of_ne_nil hnil]
    refine ⟨⟨fun h => ?_, fun h => settles_flatten (h.resolve_left hnil)⟩, fun _ hnone => ?_⟩
    · exact .inr (flatten_ne_nil_iff.mp (h.ne_nil _ rfl))
    · rw [Classical.not_not.mp (mt flatten_ne_nil_iff.mp hnone)]

/-- A list without members that is gathered makes a failure without an error. -/
theorem not_forall_resultOf_settles : ¬ ∀ errors, Settles errors (resultOf errors) := by
  intro hall
  exact (hall [.aggregate []]).ne_nil [] rfl rfl

end StagedTests.TestError
