import StagedTests.Proofs.Parameter

/-!
# One parameter among the others

Of everything that deferred parameters hold, what is held under one name is its slot. An operation
on other names leaves the slot as it is, and what an operation on this name makes of it depends on
the slot alone.
-/

namespace StagedTests.DeferredParameters

variable {σ : Type}

/-- All that is held of one parameter. -/
structure Slot (σ : Type) where
  fixed : Option String
  kept : Option String
  provider : Option (Provider σ)
  links : List StepLink

namespace Slot

def empty : Slot σ := ⟨none, none, none, []⟩

def provide (x : Slot σ) (link : Option StepLink) (f : Provider σ) : Slot σ :=
  { x with provider := some f, links := x.links ++ link.toList }

end Slot

def slot (p : DeferredParameters σ) (name : String) : Slot σ :=
  ⟨p.values.get? name, p.resolved.get? name, p.providers.get? name,
    (p.linkLists.get? name).getD []⟩

section

variable (p : DeferredParameters σ) (name : String)

theorem slot_add (other : String) (link : Option StepLink) (f : Provider σ) :
    (p.add other link f).slot name =
      if other = name then (p.slot name).provide link f else p.slot name := by
  by_cases h : other = name
  · subst h
    cases link <;> simp [slot, add, addLink, Slot.provide]
  · cases link <;> simp [slot, add, addLink, h, Table.get?_insert_of_ne]

theorem slot_addAll (t : Table (Provider σ)) (link : Option StepLink) :
    (p.addAll t link).slot name =
      match t.get? name with
      | some f => (p.slot name).provide link f
      | none => p.slot name := by
  obtain ⟨l, hl⟩ := t
  unfold addAll Table.get?
  dsimp only
  induction l generalizing p with
  | nil => rfl
  | cons e l ih =>
    obtain ⟨he, hrest⟩ := List.pairwise_cons.mp hl
    rw [List.foldl_cons, ih _ hrest, slot_add]
    by_cases h : e.1 = name
    · have hnone : l.find? (fun e => e.1 = name) = none := by
        rw [List.find?_eq_none]
        intro e' he' hname
        rw [decide_eq_true_eq] at hname
        exact absurd (he e' he') (by rw [h, hname]; exact String.lt_irrefl name)
      rw [hnone, if_pos h, List.find?_cons_of_pos (by simpa using h)]
      rfl
    · rw [if_neg h, List.find?_cons_of_neg (by simpa using h)]

theorem slot_set (other value : String) :
    (p.set other value).slot name =
      if other = name then { p.slot name with fixed := some value } else p.slot name := by
  by_cases h : other = name
  · subst h
    simp [slot, set]
  · simp [slot, set, h, Table.get?_insert_of_ne]

theorem slot_get_of_ne {other : String} (h : other ≠ name) (s : σ) :
    (p.get other s).2.1.slot name = p.slot name := by
  rcases p.get_cases other s with
    ⟨_, -, heq⟩ | ⟨-, -, heq⟩ | ⟨-, _, -, _, _, -, heq⟩ | ⟨-, _, -, _, _, -, heq⟩
  · rw [heq]
  · rw [heq]
  · rw [heq]
  · rw [heq]
    simp [slot, Table.get?_insert_of_ne _ h]

end

end StagedTests.DeferredParameters
