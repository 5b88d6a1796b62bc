import StagedTests.Proofs.Error

/-!
# Places of gathered errors

A place in a tree of errors is a list of numbers, each of which chooses a member of the list that
the numbers before it lead to. To go through a tree depth first and from left to right is to go
through its places in the order of dictionaries, and flattening gives the leaf of each place once, in
that order. A mark has no members, so nothing behind it has a place.
-/

namespace StagedTests.TestError

def members : TestError → List TestError
  | .aggregate members => members
  | _ => []

def memberAt? : TestError → List Nat → Option TestError
  | e, [] => some e
  | e, i :: place => e.members[i]?.bind fun m => m.memberAt? place

def LeafAt (e : TestError) (place : List Nat) (leaf : TestError) : Prop :=
  e.memberAt? place = some leaf ∧ leaf.IsLeaf

mutual

/-- The leaves of an error from left to right, each with its place. -/
def placed : TestError → List (List Nat × TestError)
  | .aggregate members => placedFrom 0 members
  | e => [([], e)]

/-- The leaves of errors that are numbered from a number on. -/
def placedFrom : Nat → List TestError → List (List Nat × TestError)
  | _, [] => []
  | i, e :: rest => e.placed.map (fun x => (i :: x.1, x.2)) ++ placedFrom (i + 1) rest

end

theorem members_of_isLeaf {e : TestError} (h : e.IsLeaf) : e.members = [] := by
  cases e with
  | aggregate members => exact h.elim
  | configuration _ | synthesis _ | execution _ | resultsSecret _ _ | inPhase _ _ _ => rfl

theorem placed_of_isLeaf {e : TestError} (h : e.IsLeaf) : e.placed = [([], e)] := by
  cases e with
  | aggregate members => exact h.elim
  | configuration _ | synthesis _ | execution _ | resultsSecret _ _ | inPhase _ _ _ => rfl

theorem memberAt?_append (e : TestError) (place rest : List Nat) :
    e.memberAt? (place ++ rest) = (e.memberAt? place).bind (·.memberAt? rest) := by
  induction place generalizing e with
  | nil => rfl
  | cons i place ih =>
    rw [List.cons_append, memberAt?, memberAt?]
    cases e.members[i]? with
    | none => rfl
    | some m => exact ih m

theorem memberAt?_cons_of_isLeaf {e : TestError} (h : e.IsLeaf) (i : Nat) (place : List Nat) :
    e.memberAt? (i :: place) = none := by
  rw [memberAt?, members_of_isLeaf h]
  rfl

theorem leafAt_of_isLeaf {e leaf : TestError} {place : List Nat} (h : e.IsLeaf) :
    e.LeafAt place leaf ↔ place = [] ∧ leaf = e := by
  constructor
  · rintro ⟨hat, -⟩
    cases place with
    | nil => exact ⟨rfl, (Option.some.inj hat).symm⟩
    | cons i place => rw [memberAt?_cons_of_isLeaf h] at hat; cases hat
  · rintro ⟨rfl, rfl⟩
    exact ⟨rfl, h⟩

def LeafFrom (i : Nat) (errors : List TestError) (place : List Nat) (leaf : TestError) : Prop :=
  ∃ j e rest, place = (i + j) :: rest ∧ errors[j]? = some e ∧ e.LeafAt rest leaf

theorem leafAt_aggregate {members : List TestError} {place : List Nat} {leaf : TestError} :
    (aggregate members).LeafAt place leaf ↔ LeafFrom 0 members place leaf := by
  constructor
  · rintro ⟨hat, hleaf⟩
    cases place with
    | nil => exact (Option.some.inj hat ▸ hleaf : IsLeaf (.aggregate members)).elim
    | cons j rest =>
      obtain ⟨e, he, hrest⟩ := Option.bind_eq_some_iff.mp hat
      exact ⟨j, e, rest, by rw [Nat.zero_add], he, hrest, hleaf⟩
  · rintro ⟨j, e, rest, rfl, he, hrest, hleaf⟩
    rw [Nat.zero_add]
    exact ⟨Option.bind_eq_some_iff.mpr ⟨e, he, hrest⟩, hleaf⟩

theorem not_leafFrom_nil {i : Nat} {place : List Nat} {leaf : TestError} :
    ¬ LeafFrom i [] place leaf := by
  rintro ⟨_, _, _, -, he, -⟩
  cases he

theorem leafFrom_cons {i : Nat} {e : TestError} {errors : List TestError} {place : List Nat}
    {leaf : TestError} :
    LeafFrom i (e :: errors) place leaf ↔
      (∃ rest, place = i :: rest ∧ e.LeafAt rest leaf) ∨ LeafFrom (i + 1) errors place leaf := by
  constructor
  · rintro ⟨j, m, rest, rfl, hm, hrest⟩
    cases j with
    | zero => exact .inl ⟨rest, rfl, Option.some.inj hm ▸ hrest⟩
    | succ j => exact .inr ⟨j, m, rest, by rw [Nat.add_right_comm, Nat.add_assoc], hm, hrest⟩
  · rintro (⟨rest, rfl, hrest⟩ | ⟨j, m, rest, rfl, hm, hrest⟩)
    · exact ⟨0, e, rest, rfl, rfl, hrest⟩
    · exact ⟨j + 1, m, rest, by rw [Nat.add_right_comm, Nat.add_assoc], hm, hrest⟩

/-! ## The leaves in the order of their places

The inductions are on `Leaves`, which takes a tree apart into leaves, lists within and what follows
them. -/

theorem mem_placedFrom_cons {i : Nat} {e : TestError} {errors : List TestError} {place : List Nat}
    {leaf : TestError} :
    (place, leaf) ∈ placedFrom i (e :: errors) ↔
      (∃ rest, place = i :: rest ∧ (rest, leaf) ∈ e.placed) ∨
        (place, leaf) ∈ placedFrom (i + 1) errors := by
  rw [placedFrom, List.mem_append, List.mem_map]
  refine or_congr_left ⟨?_, ?_⟩
  · rintro ⟨⟨rest, e⟩, hmem, ⟨⟩⟩
    exact ⟨rest, rfl, hmem⟩
  · rintro ⟨rest, rfl, hmem⟩
    exact ⟨(rest, leaf), hmem, rfl⟩

namespace Leaves

variable {errors leaves : List TestError} (h : Leaves errors leaves)
include h

theorem map_snd_placedFrom (i : Nat) : (placedFrom i errors).map (·.2) = leaves := by
  induction h generalizing i with
  | nil => rfl
  | leaf he _ ih =>
    rw [placedFrom, placed_of_isLeaf he, List.map_append, ih]
    rfl
  | inner _ _ ihinner ih =>
    rw [placedFrom, placed, List.map_append, List.map_map, ih]
    exact congrArg (· ++ _) (ihinner 0)

theorem mem_placedFrom {i : Nat} {place : List Nat} {leaf : TestError} :
    (place, leaf) ∈ placedFrom i errors ↔ LeafFrom i errors place leaf := by
  induction h generalizing i place with
  | nil => exact iff_of_false List.not_mem_nil not_leafFrom_nil
  | leaf he _ ih =>
    rw [mem_placedFrom_cons, leafFrom_cons, ih]
    refine or_congr_left (exists_congr fun rest => and_congr_right fun _ => ?_)
    rw [placed_of_isLeaf he, List.mem_singleton, leafAt_of_isLeaf he, Prod.mk.injEq]
  | inner _ _ ihinner ih =>
    rw [mem_placedFrom_cons, leafFrom_cons, ih]
    refine or_congr_left (exists_congr fun rest => and_congr_right fun _ => ?_)
    rw [placed, ihinner, leafAt_aggregate]

end Leaves

/-- The place of the first is before that of the second in the order of dictionaries. -/
def Before (x y : List Nat × TestError) : Prop := List.Lex (· < ·) x.1 y.1

theorem pairwise_placedFrom_cons {i : Nat} {e : TestError} {errors : List TestError}
    (he : e.placed.Pairwise Before) (herrors : (placedFrom (i + 1) errors).Pairwise Before) :
    (placedFrom i (e :: errors)).Pairwise Before := by
  rw [placedFrom, List.pairwise_append, List.pairwise_map]
  refine ⟨he.imp fun h => .cons h, herrors, ?_⟩
  -- What follows the error has a greater number at the front of its place.
  rintro ⟨place, leaf⟩ hx ⟨after, last⟩ hy
  obtain ⟨x, -, ⟨⟩⟩ := List.mem_map.mp hx
  obtain ⟨j, _, rest, rfl, -⟩ := (leaves_flatten errors).mem_placedFrom.mp hy
  exact .rel (by omega)

theorem Leaves.pairwise_placedFrom {errors leaves : List TestError} (h : Leaves errors leaves)
    (i : Nat) : (placedFrom i errors).Pairwise Before := by
  induction h generalizing i with
  | nil => exact .nil
  | leaf he _ ih =>
    refine pairwise_placedFrom_cons ?_ (ih (i + 1))
    rw [placed_of_isLeaf he]
    exact List.pairwise_singleton _ _
  | inner _ _ ihinner ih => exact pairwise_placedFrom_cons (ihinner 0) (ih (i + 1))

/-! ## Flattening -/

/-- What flattening makes of errors. -/
structure Unfolds (errors result : List TestError) : Prop where
  /-- The result has the leaves in the order of their places, one for each place. -/
  inOrder : ∃ located : List (List Nat × TestError), result = located.map (·.2) ∧
    located.Pairwise Before ∧
    ∀ place leaf, (place, leaf) ∈ located ↔ (aggregate errors).LeafAt place leaf
  flat : ∀ e ∈ result, ∀ members, e ≠ .aggregate members
  /-- A mark is in the result with all that is behind it, and nothing there has a place. -/
  marked : ∀ place test phase source,
    (aggregate errors).memberAt? place = some (.inPhase test phase source) →
      .inPhase test phase source ∈ result ∧
        ∀ i rest, (aggregate errors).memberAt? (place ++ i :: rest) = none
  again : flatten result = result
  append : ∀ more, flatten (errors ++ more) = result ++ flatten more

/-- Errors are flattened so, however deep they are nested. -/
theorem flatten_unfolds (errors : List TestError) : Unfolds errors (flatten errors) := by
  have hleaves := leaves_flatten errors
  have hplaced : ∀ place leaf, (place, leaf) ∈ placedFrom 0 errors ↔
      (aggregate errors).LeafAt place leaf :=
    fun _ _ => hleaves.mem_placedFrom.trans leafAt_aggregate.symm
  have hsnd := hleaves.map_snd_placedFrom 0
  constructor
  · exact ⟨placedFrom 0 errors, hsnd.symm, hleaves.pairwise_placedFrom 0, hplaced⟩
  · exact fun e he => isLeaf_iff.mp (hleaves.isLeaf e he)
  · intro place test phase source hat
    constructor
    · rw [← hsnd]
      exact List.mem_map_of_mem ((hplaced _ _).mpr ⟨hat, trivial⟩)
    · intro i rest
      rw [memberAt?_append, hat]
      exact memberAt?_cons_of_isLeaf (e := .inPhase test phase source) trivial i rest
  · exact flatten_of_leaves hleaves.isLeaf
  · exact flatten_append errors

/-- The list behind the mark stays, and the list without members leaves nothing. -/
example (e : ExecutionError) :
    flatten [.aggregate [.aggregate [], .inPhase "e2e" .pre (.aggregate [.execution e])],
      .execution e] = [.inPhase "e2e" .pre (.aggregate [.execution e]), .execution e] :=
  rfl

end StagedTests.TestError
