/-!
# Ranges of code points

Properties of characters are kept as tables of closed ranges of code points in increasing order.
-/

namespace StagedTests.Text

/-- Membership of a code point in a table of closed ranges. -/
def covers (ranges : Array (Nat × Nat)) (n : Nat) : Bool :=
  ranges.any fun r => r.1 ≤ n && n ≤ r.2

theorem covers_iff (ranges : Array (Nat × Nat)) (n : Nat) :
    covers ranges n = true ↔ ∃ r ∈ ranges, r.1 ≤ n ∧ n ≤ r.2 := by
  simp only [covers, Array.any_eq_true', Bool.and_eq_true, decide_eq_true_eq]

end StagedTests.Text
