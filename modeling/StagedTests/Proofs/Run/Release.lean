import Mathlib.Data.List.Forall2
import StagedTests.Proofs.Run.Frame

/-!
# Watchers that are let go

While nobody cancels the token, no watcher reacts. A turn lets a watcher go if its scope is closed,
and comes to nothing otherwise.
-/

namespace StagedTests

variable {σ : Type}

/-- It is the same watcher, but that it may have been let go. -/
def Watcher.EasedTo {ρ : Type} (x y : Watcher ρ) : Prop :=
  y = x ∨ x.watch = .waiting ∧ y = { x with watch := .released }

def Eased (watchers l : List (Watcher Reaction)) : Prop :=
  List.Forall₂ Watcher.EasedTo watchers l

namespace Eased

variable {watchers l : List (Watcher Reaction)}

theorem refl (watchers : List (Watcher Reaction)) : Eased watchers watchers :=
  List.forall₂_same.mpr fun _ _ => .inl rfl

theorem append_waiting (h : Eased watchers l) (r : Reaction) :
    Eased (watchers ++ [⟨r, .waiting⟩]) (l ++ [⟨r, .waiting⟩]) :=
  List.rel_append h (refl [⟨r, .waiting⟩])

theorem release (h : Eased watchers l) {i : Nat} {r : Reaction}
    (hi : l[i]? = some ⟨r, .waiting⟩) : Eased watchers (l.set i ⟨r, .released⟩) := by
  induction h generalizing i with
  | nil => cases hi
  | @cons x y watchers l hxy hl ih =>
    cases i with
    | zero =>
      obtain rfl : y = ⟨r, .waiting⟩ := by simpa using hi
      rcases hxy with rfl | ⟨-, hy⟩
      · exact .cons (.inr ⟨rfl, rfl⟩) hl
      · cases hy
    | succ i => exact .cons hxy (ih (by simpa using hi))

theorem of_append_waiting {r : Reaction} (h : Eased (watchers ++ [⟨r, .waiting⟩]) l) :
    ∃ outer x, l = outer ++ [x] ∧ Eased watchers outer ∧ x.watch ≠ .reacting := by
  induction watchers generalizing l with
  | nil =>
    obtain ⟨x, rest, hx, hrest, rfl⟩ := List.forall₂_cons_left_iff.mp h
    obtain rfl := List.forall₂_nil_left_iff.mp hrest
    refine ⟨[], x, rfl, .nil, ?_⟩
    rcases hx with rfl | ⟨-, rfl⟩ <;> simp
  | cons y watchers ih =>
    obtain ⟨z, l, hyz, hl, rfl⟩ := List.forall₂_cons_left_iff.mp h
    obtain ⟨outer, x, rfl, houter, hx⟩ := ih hl
    exact ⟨z :: outer, x, rfl, .cons hyz houter, hx⟩

end Eased

variable {watchers : List (Watcher Reaction)} {w : World σ}

theorem Surroundings.turn_of_uncancelled (env : Surroundings σ) (h : w.token.isCancelled = false)
    (hw : Eased watchers w.watchers) (i : Nat) :
    ∃ l, Eased watchers l ∧ env.turn w i = { w with watchers := l } := by
  rcases env.turn_cases w i with ⟨heq, -⟩ | ⟨_, -, hcancelled, -⟩ | ⟨r, hi, -, -, heq⟩
  · exact ⟨w.watchers, hw, heq⟩
  · rw [h] at hcancelled
    cases hcancelled
  · exact ⟨_, hw.release hi, heq⟩

/-- The innermost watcher goes if nobody has cancelled anything. -/
theorem Task.finishWatcher_of_uncancelled (env : Surroundings σ) {r : Reaction}
    (h : w.token.isCancelled = false) (hw : Eased (watchers ++ [⟨r, .waiting⟩]) w.watchers) :
    ∃ l, Eased watchers l ∧
      Task.finishWatcher env w = (.returned (), { w with watchers := l, closing := false }) := by
  obtain ⟨_, hl, hturn⟩ := env.turn_of_uncancelled h hw (w.watchers.length - 1)
  obtain ⟨outer, x, rfl, houter, hx⟩ := hl.of_append_waiting
  refine ⟨outer, houter, ?_⟩
  rcases Task.finishWatcher_cases env w with ⟨-, r, hlast⟩ | hreturned
  · rw [hturn] at hlast
    obtain rfl : x = ⟨r, .reacting⟩ := by simpa using hlast
    exact absurd rfl hx
  · rw [hreturned, hturn]
    simp only [List.dropLast_concat]

end StagedTests
