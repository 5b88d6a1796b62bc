import Mathlib.Tactic.SplitIfs
import StagedTests.Time.Instant

/-!
# The calendar

Days and their numbers: `ofDays` gives a day that there is, and `toDays` its number back. The
calendar repeats every 400 years, in which a day is found by its century, the four years in this,
the year in those and its place in the year. A year counted from March on has its leap day last.
-/

namespace StagedTests.Date

/-- The day `d` of the 400 years: `c` centuries, `q` times four years, `k` years and `r` days
behind the first. -/
structure InCycle (d c q k r : Int) : Prop where
  century : 0 ≤ c ∧ c ≤ 3
  four : 0 ≤ q ∧ q ≤ 24
  year : 0 ≤ k ∧ k ≤ 3
  day : 0 ≤ r ∧ r ≤ 365
  leap : r = 365 → k = 3 ∧ (q < 24 ∨ c = 3)
  eq : d = 36524 * c + 1461 * q + 365 * k + r

theorem exists_inCycle {d : Int} (h : 0 ≤ d ∧ d < 146097) : ∃ c q k r, InCycle d c q k r := by
  by_cases hlast : d = 146096
  · exact ⟨3, 24, 3, 365, by omega, by omega, by omega, by omega, by omega, by omega⟩
  by_cases hleap : d % 36524 % 1461 = 1460
  · exact ⟨d / 36524, d % 36524 / 1461, 3, 365, by omega, by omega, by omega, by omega, by omega,
      by omega⟩
  · exact ⟨d / 36524, d % 36524 / 1461, d % 36524 % 1461 / 365, d % 36524 % 1461 % 365, by omega,
      by omega, by omega, by omega, by omega, by omega⟩

namespace InCycle

variable {d c q k r : Int}

theorem year_eq (h : InCycle d c q k r) :
    (d - d / 1460 + d / 36524 - d / 146096) / 365 = 100 * c + 4 * q + k := by
  obtain ⟨hc, hq, hk, hr, hleap, hd⟩ := h
  have hlast : 1461 * q + 365 * k + r ≤ 36523 ∨ c = 3 ∧ d = 146096 := by omega
  have hcentury : d / 36524 - d / 146096 = c := by
    rcases hlast with hlast | ⟨rfl, rfl⟩
    · have hdiv : d / 36524 = c := by omega
      have hzero : d / 146096 = 0 := by omega
      omega
    · rfl
  have hfour : d / 1460 = 25 * c + q + (24 * c + q + 365 * k + r) / 1460 := by omega
  have hyear : 365 * k ≤ 365 * k + r - (24 * c + q + 365 * k + r) / 1460 ∧
      365 * k + r - (24 * c + q + 365 * k + r) / 1460 < 365 * (k + 1) := by omega
  omega

theorem day_eq (h : InCycle d c q k r) {y : Int} (hy : y = 100 * c + 4 * q + k) :
    d - (365 * y + y / 4 - y / 100) = r := by
  obtain ⟨hc, hq, hk, hr, -, hd⟩ := h
  omega

theorem number_eq (h : InCycle d c q k r) {e y : Int} (hy : y = e * 400 + (100 * c + 4 * q + k)) :
    365 * y + y / 4 - y / 100 + y / 400 + r = 146097 * e + d := by
  obtain ⟨hc, hq, hk, hr, -, hd⟩ := h
  have hfour : y / 4 = 100 * e + 25 * c + q := by omega
  have hcentury : y / 100 = 4 * e + c := by omega
  have hcycle : y / 400 = e := by omega
  omega

theorem isLeapYear (h : InCycle d c q k r) (hr : r = 365) {e y : Int}
    (hy : y = e * 400 + (100 * c + 4 * q + k) + 1) : Date.isLeapYear y = true := by
  obtain ⟨hk, hcentury⟩ := h.leap hr
  have hc := h.century
  have hq := h.four
  have hfour : y % 4 = 0 := by omega
  have hhundred : y % 100 ≠ 0 ∨ y % 400 = 0 := by omega
  simp only [Date.isLeapYear, Bool.and_eq_true, Bool.or_eq_true, decide_eq_true_eq]
  exact ⟨hfour, hhundred⟩

end InCycle

/-- The months of a year counted from March on, and the days before each. -/
theorem month_eq {r m : Int} (hr : 0 ≤ r ∧ r ≤ 365) (hm : m = (5 * r + 2) / 153) :
    0 ≤ m ∧ m ≤ 11 ∧ (153 * m + 2) / 5 ≤ r ∧ r < (153 * (m + 1) + 2) / 5 := by
  omega

theorem ofDays_eq {n c q k r m : Int} (h : InCycle ((n + 719468) % 146097) c q k r)
    (hm : m = (5 * r + 2) / 153) :
    ofDays n = ⟨(n + 719468) / 146097 * 400 + (100 * c + 4 * q + k) + (if m < 10 then 0 else 1),
      (if m < 10 then m + 3 else m - 9).toNat, (r - (153 * m + 2) / 5 + 1).toNat⟩ := by
  have hr := h.day
  have hmonth : (if m < 10 then m + 3 else m - 9) ≤ 2 ↔ ¬ m < 10 := by
    split <;> omega
  simp only [ofDays, h.year_eq, h.day_eq rfl, ← hm, hmonth, ite_not]

theorem toDays_ofDays (n : Int) : (ofDays n).toDays = n := by
  obtain ⟨c, q, k, r, h⟩ := exists_inCycle (d := (n + 719468) % 146097) (by omega)
  obtain ⟨hm0, hm1, hlow, hhigh⟩ := month_eq h.day rfl
  have hnumber := h.number_eq (e := (n + 719468) / 146097) rfl
  rw [ofDays_eq h rfl]
  generalize (5 * r + 2) / 153 = m at *
  have hday : (((r - (153 * m + 2) / 5 + 1).toNat : Nat) : Int) = r - (153 * m + 2) / 5 + 1 :=
    Int.toNat_of_nonneg (by omega)
  by_cases hm : m < 10
  · have hmonth : (((m + 3).toNat : Nat) : Int) = m + 3 := Int.toNat_of_nonneg (by omega)
    have hlate : ¬ (m + 3).toNat ≤ 2 := by omega
    simp only [toDays, hm, if_true, hlate, if_false, hmonth, hday, Int.add_sub_cancel,
      Int.add_zero]
    omega
  · have hmonth : (((m - 9).toNat : Nat) : Int) = m - 9 := Int.toNat_of_nonneg (by omega)
    have hearly : (m - 9).toNat ≤ 2 := by omega
    simp only [toDays, hm, if_false, hearly, if_true, hmonth, hday, Int.add_sub_cancel,
      Int.sub_add_cancel]
    omega

theorem le_daysInMonth (y : Int) (m : Nat) : 28 ≤ daysInMonth y m := by
  unfold daysInMonth
  split_ifs <;> decide

theorem daysInMonth_le (y : Int) (m : Nat) : daysInMonth y m ≤ 31 := by
  unfold daysInMonth
  split_ifs <;> decide

/-- The number of days of a month counted from March on, February apart. -/
theorem length_le_daysInMonth (y : Int) {m : Int} (hm : 0 ≤ m ∧ m ≤ 10) :
    (153 * (m + 1) + 2) / 5 - (153 * m + 2) / 5 ≤
      daysInMonth y (if m < 10 then m + 3 else m - 9).toNat := by
  have hcases : m = 0 ∨ m = 1 ∨ m = 2 ∨ m = 3 ∨ m = 4 ∨ m = 5 ∨ m = 6 ∨ m = 7 ∨ m = 8 ∨ m = 9 ∨
    m = 10 := by omega
  rcases hcases with rfl | rfl | rfl | rfl | rfl | rfl | rfl | rfl | rfl | rfl | rfl <;>
    exact Int.le_of_eq rfl

theorem ofDays_exists (n : Int) : (ofDays n).Exists := by
  obtain ⟨c, q, k, r, h⟩ := exists_inCycle (d := (n + 719468) % 146097) (by omega)
  have hmonth := month_eq h.day rfl
  rw [ofDays_eq h rfl]
  generalize (5 * r + 2) / 153 = m at hmonth
  obtain ⟨hm0, hm1, hlow, hhigh⟩ := hmonth
  have hday : (r - (153 * m + 2) / 5 + 1).toNat ≤
      daysInMonth ((n + 719468) / 146097 * 400 + (100 * c + 4 * q + k) + (if m < 10 then 0 else 1))
        (if m < 10 then m + 3 else m - 9).toNat := by
    by_cases hfeb : m = 11
    · -- The day behind the 28th of February is there in leap years only.
      subst hfeb
      by_cases hr : r = 365
      · have hyear := h.isLeapYear hr (e := (n + 719468) / 146097) rfl
        simp [daysInMonth, hyear, hr]
      · have hshort : (r - 337 + 1).toNat ≤ 28 := by
          have := h.day
          omega
        exact Nat.le_trans hshort (le_daysInMonth _ _)
    · have hlength := length_le_daysInMonth
        ((n + 719468) / 146097 * 400 + (100 * c + 4 * q + k) + (if m < 10 then 0 else 1))
        (m := m) (by omega)
      omega
  refine ⟨?_, ?_, ?_, hday⟩ <;> dsimp only
  · split <;> omega
  · split <;> omega
  · omega

end StagedTests.Date
