import StagedTests.Proofs.Json.Decoding
import StagedTests.Proofs.Time.Calendar
import StagedTests.Time.Rfc3339

/-!
# Written instants are read

`read` takes back what `write` writes for an instant on a day in reach, and every instant that is
read is on such a day. What is written fills all of its fields, so that each of the readers takes
the digits meant for it and stops at the separator.
-/

namespace StagedTests.Rfc3339

open Json (digitsValue digitsValue_decimalDigits isDigit_of_mem_decimalDigits ne_of_isDigit)

/-! ## Fields of digits -/

theorem isDigit_of_mem_padded {width n : Nat} {c : Char} (h : c ∈ padded width n) :
    c.isDigit = true := by
  rcases List.mem_append.mp h with h | h
  · obtain rfl := List.eq_of_mem_replicate h
    decide
  · exact isDigit_of_mem_decimalDigits h

theorem padded_ne_nil (width n : Nat) : padded width n ≠ [] := by
  intro h
  exact Json.decimalDigits_ne_nil n (List.append_eq_nil_iff.mp h).2

theorem digitsValue_padded (width n : Nat) : digitsValue (padded width n) = n := by
  have hzeros : ∀ k, digitsValue (List.replicate k '0') = 0 := by
    intro k
    have h : Nat.ofDigitChars 10 (List.replicate k '0') 0 = 10 ^ k * 0 :=
      Nat.ofDigitChars_replicate_zero
    rwa [Nat.ofDigitChars_eq_foldl] at h
  have happend : ∀ as bs : List Char, digitsValue as = 0 → digitsValue (as ++ bs) = digitsValue bs := by
    intro as bs h
    rw [digitsValue, List.foldl_append, ← digitsValue, h, ← digitsValue]
  rw [padded, happend _ _ (hzeros _), digitsValue_decimalDigits]

theorem length_padded {width n : Nat} (hwidth : 0 < width) (hn : n < 10 ^ width) :
    (padded width n).length = width := by
  have hlength : (decimalDigits n).length ≤ width :=
    (Nat.length_toDigits_le_iff (by decide) hwidth).mpr hn
  simp only [padded, List.length_append, List.length_replicate]
  omega

theorem digitsValue_padded_lt {width n : Nat} (hwidth : width ≤ 18) (hn : n < 10 ^ width) :
    digitsValue (padded width n) < 2 ^ 63 := by
  rw [digitsValue_padded]
  calc n < 10 ^ width := hn
    _ ≤ 10 ^ 18 := Nat.pow_le_pow_right (by decide) hwidth
    _ ≤ 2 ^ 63 := by decide

theorem digits_append {ds : List Char} {width : Nat} (rest : List Char)
    (hd : ∀ c ∈ ds, c.isDigit = true) (hne : ds ≠ []) (hwidth : ds.length ≤ width)
    (hstop : ds.length = width ∨ ∀ c ∈ rest.head?, c.isDigit = false)
    (hvalue : digitsValue ds < 2 ^ 63) :
    digits width (ds ++ rest) = .ok (digitsValue ds, rest) := by
  have hends : ∀ c ∈ (rest.take (width - ds.length)).head?, c.isDigit = false := by
    intro c hc
    rw [List.head?_take] at hc
    split at hc
    · cases hc
    · next hfree =>
      rcases hstop with h | h
      · omega
      · exact h c hc
  have htake : ((ds ++ rest).take width).takeWhile Char.isDigit = ds := by
    rw [List.take_append, List.take_of_length_le hwidth]
    exact Text.takeWhile_append_stop hd hends
  unfold digits
  rw [htake]
  split
  · exact absurd rfl hne
  · have hfits : digitsValue ds < Nat.pow 2 63 := hvalue
    simp only [hfits, if_true, List.drop_left]

theorem digits_padded {width n : Nat} (hwidth : 0 < width ∧ width ≤ 18) (hn : n < 10 ^ width)
    (rest : List Char) : digits width (padded width n ++ rest) = .ok (n, rest) := by
  have hlength := length_padded hwidth.1 hn
  have h := digits_append rest (fun c hc => isDigit_of_mem_padded hc) (padded_ne_nil width n)
    (Nat.le_of_eq hlength) (.inl hlength) (digitsValue_padded_lt hwidth.2 hn)
  rwa [digitsValue_padded] at h

theorem skipBlanks_cons {c : Char} (hc : Text.isBlank c = false) (cs : List Char) :
    skipBlanks (c :: cs) = c :: cs := by
  simp [skipBlanks, hc]

theorem isBlank_of_isDigit {c : Char} (hc : c.isDigit = true) : Text.isBlank c = false := by
  have hbounds : 48 ≤ c.toNat ∧ c.toNat ≤ 57 := Char.isDigit_iff_toNat.mp hc
  rw [← Char.ofNat_toNat c]
  generalize c.toNat = n at hbounds
  obtain ⟨hlow, hhigh⟩ := hbounds
  interval_cases n <;> decide

theorem skipBlanks_padded (width n : Nat) (rest : List Char) :
    skipBlanks (padded width n ++ rest) = padded width n ++ rest := by
  obtain ⟨c, cs, hcs⟩ := List.exists_cons_of_ne_nil (padded_ne_nil width n)
  have hc : c.isDigit = true := isDigit_of_mem_padded (hcs ▸ List.mem_cons_self)
  rw [hcs, List.cons_append]
  exact skipBlanks_cons (isBlank_of_isDigit hc) _

theorem field_padded {low high n : Nat} (hn : low ≤ n ∧ n ≤ high) (hhigh : high < 100)
    (rest : List Char) : field low high (padded 2 n ++ rest) = .ok (n, rest) := by
  unfold field
  rw [skipBlanks_padded, digits_padded (by decide) (by omega)]
  simp only [bind, Except.bind, hn, and_self, if_true]

theorem isBlank_minus : Text.isBlank '-' = false := by decide

theorem isBlank_plus : Text.isBlank '+' = false := by decide

theorem isBlank_colon : Text.isBlank ':' = false := by decide

theorem separator_cons {c : Char} (hc : Text.isBlank c = false) (rest : List Char) :
    separator c (c :: rest) = .ok rest := by
  simp [separator, skipBlanks_cons hc]

/-- The year behind a sign goes on as long as there are digits. -/
theorem digits_year {n : Nat} (hn : n ≤ 2 ^ 31) (rest : List Char) :
    digits (padded 4 n ++ '-' :: rest).length (padded 4 n ++ '-' :: rest) = .ok (n, '-' :: rest) := by
  have hvalue : digitsValue (padded 4 n) < 2 ^ 63 := by
    rw [digitsValue_padded]
    omega
  have hwidth : (padded 4 n).length ≤ (padded 4 n ++ '-' :: rest).length := by simp
  have h := digits_append ('-' :: rest) (fun c hc => isDigit_of_mem_padded hc)
    (padded_ne_nil 4 n) hwidth (.inr (by simp)) hvalue
  rwa [digitsValue_padded] at h

/-- A year that is read, with its sign taken in, and found to be within its bounds. -/
theorem year_checked (sign : Nat → Int) {width n : Nat} {cs rest : List Char}
    (h : digits width cs = .ok (n, rest)) {y : Int} (hn : sign n = y) (hy : -2 ^ 31 ≤ y ∧ y < 2 ^ 31) :
    (do
      let x ← digits width cs
      let x ← Except.ok (sign x.1, x.2)
      if -Int.pow 2 31 ≤ x.1 ∧ x.1 < Int.pow 2 31 then Except.ok (x.1, x.2)
      else Except.error Flaw.outOfRange) = .ok (y, rest) := by
  subst hn
  have hbounds : -Int.pow 2 31 ≤ sign n ∧ sign n < Int.pow 2 31 := by
    simp only [Int.pow_eq]
    omega
  simp only [h, bind, Except.bind, hbounds, and_self, if_true]

theorem year_yearText {y : Int} (hy : -2 ^ 31 ≤ y ∧ y < 2 ^ 31) (rest : List Char) :
    year (yearText y ++ '-' :: rest) = .ok (y, '-' :: rest) := by
  have habs : y.natAbs ≤ 2 ^ 31 := by omega
  have hsigned := digits_year habs rest
  unfold yearText
  by_cases hplain : 0 ≤ y ∧ y ≤ 9999
  · have hsign : ∀ c cs, padded 4 y.toNat ++ '-' :: rest = c :: cs → c.isDigit = true := by
      intro c cs h
      obtain ⟨d, ds, hds⟩ := List.exists_cons_of_ne_nil (padded_ne_nil 4 y.toNat)
      rw [hds] at h
      exact (List.cons.inj h).1 ▸ isDigit_of_mem_padded (hds ▸ List.mem_cons_self)
    rw [if_pos hplain]
    simp only [year, skipBlanks_padded]
    split
    · next h => exact absurd (hsign _ _ h) (by decide)
    · next h => exact absurd (hsign _ _ h) (by decide)
    · have hfits : y.toNat < 10 ^ 4 := by omega
      exact year_checked (fun n => (n : Int)) (digits_padded (by decide) hfits ('-' :: rest))
        (Int.toNat_of_nonneg hplain.1) hy
  rw [if_neg hplain]
  by_cases hneg : y < 0
  · have hvalue : -((y.natAbs : Nat) : Int) = y := by omega
    rw [if_pos hneg]
    simp only [year, List.cons_append, skipBlanks_cons isBlank_minus]
    exact year_checked (fun n => -(n : Int)) hsigned hvalue hy
  · have hvalue : ((y.natAbs : Nat) : Int) = y := by omega
    rw [if_neg hneg]
    simp only [year, List.cons_append, skipBlanks_cons isBlank_plus]
    exact year_checked (fun n => (n : Int)) hsigned hvalue hy

theorem fraction_padded {width n : Nat} (hwidth : 0 < width ∧ width ≤ 9) (hn : n < 10 ^ width) :
    fraction ('.' :: padded width n ++ ['Z']) = .ok (n * 10 ^ (9 - width), ['Z']) := by
  have hlength := length_padded hwidth.1 hn
  have hread := digits_append ['Z'] (fun c hc => isDigit_of_mem_padded hc)
    (padded_ne_nil width n) (hlength ▸ hwidth.2) (.inr (by simp))
    (digitsValue_padded_lt (by omega) hn)
  rw [digitsValue_padded] at hread
  simp only [fraction, List.cons_append, hread, bind, Except.bind, List.length_append, hlength,
    Nat.add_sub_cancel]
  rfl

theorem fraction_fractionText {nano : Nat} (h : nano < nanosPerSecond) :
    fraction (fractionText nano ++ ['Z']) = .ok (nano, ['Z']) := by
  have hlt : nano < 1000000000 := h
  unfold fractionText
  split
  · next hzero =>
    subst hzero
    rfl
  split
  · rw [fraction_padded (by decide) (by omega)]
    have : nano / 1000000 * 10 ^ (9 - 3) = nano := by omega
    rw [this]
  split
  · rw [fraction_padded (by decide) (by omega)]
    have : nano / 1000 * 10 ^ (9 - 6) = nano := by omega
    rw [this]
  · rw [fraction_padded (by decide) (by omega)]
    simp

/-! ## Whole instants -/

theorem assemble_parts {t : Instant} (ht : isInReach t.day = true) :
    assemble (Date.ofDays t.day) (t.second / 3600) (t.second / 60 % 60)
      (t.second % 60 + t.nano / nanosPerSecond) (t.nano % nanosPerSecond) 0 = .ok t := by
  obtain ⟨day, second, nano, hsecond, hnano⟩ := t
  have hstart : (Date.ofDays day).Exists ∧ isInReach (Date.ofDays day).toDays = true ∧
      Int.natAbs 0 < 86400 := by
    rw [Date.toDays_ofDays]
    exact ⟨Date.ofDays_exists day, ht, by decide⟩
  -- A leap second is written as the second numbered 60.
  have hleap : (nano / nanosPerSecond = 0 ∧ nano % nanosPerSecond = nano) ∨
      (nano / nanosPerSecond = 1 ∧ nano % nanosPerSecond + nanosPerSecond = nano ∧
        second % 60 = 59) := by
    simp only [nanosPerSecond] at hnano ⊢
    omega
  have hparts : (if second % 60 + nano / nanosPerSecond = 60
      then (59, nano % nanosPerSecond + nanosPerSecond)
      else (second % 60 + nano / nanosPerSecond, nano % nanosPerSecond)) = (second % 60, nano) := by
    rcases hleap with ⟨hwhole, hrest⟩ | ⟨hwhole, hrest, hlast⟩
    · have hsixty : second % 60 ≠ 60 := by omega
      simp only [hwhole, hrest, Nat.add_zero, hsixty, if_false]
    · simp only [hwhole, hrest, hlast, if_true]
  have hseconds : ((second / 3600 : Nat) : Int) * 3600 + ((second / 60 % 60 : Nat) : Int) * 60 +
      ((second % 60 : Nat) : Int) - 0 = second := by omega
  have hday : (second : Int) / 86400 = 0 := by omega
  have hofDay : ((second : Int) % 86400).toNat = second := by omega
  unfold assemble
  rw [if_pos hstart, hparts]
  simp only [hseconds, hday, hofDay, Date.toDays_ofDays, Int.add_zero, ht, hsecond, hnano]
  simp

theorem year_ofDays_bounds {day : Int} (h : isInReach day = true) :
    -2 ^ 31 ≤ (Date.ofDays day).year ∧ (Date.ofDays day).year < 2 ^ 31 := by
  have hfirst : firstDay.toDays = -96465292 := by decide
  have hlast : lastDay.toDays = 95026236 := by decide
  simp only [isInReach, hfirst, hlast, Bool.and_eq_true, decide_eq_true_eq] at h
  obtain ⟨c, q, k, r, hcycle⟩ := Date.exists_inCycle (d := (day + 719468) % 146097) (by omega)
  have hc := hcycle.century
  have hq := hcycle.four
  have hk := hcycle.year
  rw [Date.ofDays_eq hcycle rfl]
  dsimp only
  split <;> omega

/-- What is written for an instant on a day in reach is read as that instant. -/
theorem read_write {t : Instant} (ht : isInReach t.day = true) : read (write t) = .ok t := by
  obtain ⟨hmonth, hmonth', hday, hday'⟩ := Date.ofDays_exists t.day
  have hdays := Date.daysInMonth_le (Date.ofDays t.day).year (Date.ofDays t.day).month
  have hyear := year_ofDays_bounds ht
  have hhour : t.second / 3600 ≤ 23 := by
    have := t.second_lt
    omega
  have hminute : t.second / 60 % 60 ≤ 59 := by omega
  have hsecond : t.second % 60 + t.nano / nanosPerSecond ≤ 60 := by
    have := t.nano_lt
    simp only [nanosPerSecond] at this ⊢
    omega
  have hnano : t.nano % nanosPerSecond < nanosPerSecond := Nat.mod_lt _ (by decide)
  simp only [read, write, writeWith, String.toList_ofList, List.append_assoc, List.cons_append,
    year_yearText hyear, bind, Except.bind, separator_cons isBlank_minus,
    separator_cons isBlank_colon, field_padded ⟨hmonth, hmonth'⟩ (by decide),
    field_padded ⟨hday, Nat.le_trans hday' hdays⟩ (by decide),
    field_padded ⟨Nat.zero_le _, hhour⟩ (by decide),
    field_padded ⟨Nat.zero_le _, hminute⟩ (by decide),
    field_padded ⟨Nat.zero_le _, hsecond⟩ (by decide), fraction_fractionText hnano, true_or, if_true]
  exact assemble_parts ht

theorem isInReach_of_assemble {date : Date} {hour minute second nano : Nat} {offset : Int}
    {t : Instant} (h : assemble date hour minute second nano offset = .ok t) :
    isInReach t.day = true := by
  unfold assemble at h
  split at h
  · dsimp only at h
    generalize (if second = 60 then (59, nano + nanosPerSecond) else (second, nano)) = parts at h
    split at h
    · cases h
    · next hday =>
      split at h
      · obtain rfl := Except.ok.inj h
        simpa using hday
      · cases h
  · cases h

/-- Only instants on days in reach are read. -/
theorem isInReach_of_read {s : String} {t : Instant} (h : read s = .ok t) :
    isInReach t.day = true := by
  obtain ⟨⟨y, cs⟩, -, h⟩ := Json.bind_ok h
  obtain ⟨cs, -, h⟩ := Json.bind_ok h
  obtain ⟨⟨m, cs⟩, -, h⟩ := Json.bind_ok h
  obtain ⟨cs, -, h⟩ := Json.bind_ok h
  obtain ⟨⟨d, cs⟩, -, h⟩ := Json.bind_ok h
  dsimp only at h
  split at h
  · cases h
  split at h
  · obtain ⟨cs, -, h⟩ := Json.bind_ok h
    obtain ⟨⟨hour, cs⟩, -, h⟩ := Json.bind_ok h
    obtain ⟨cs, -, h⟩ := Json.bind_ok h
    obtain ⟨⟨minute, cs⟩, -, h⟩ := Json.bind_ok h
    obtain ⟨cs, -, h⟩ := Json.bind_ok h
    obtain ⟨⟨second, cs⟩, -, h⟩ := Json.bind_ok h
    obtain ⟨⟨nano, cs⟩, -, h⟩ := Json.bind_ok h
    obtain ⟨⟨off, cs⟩, -, h⟩ := Json.bind_ok h
    dsimp only at h
    split at h
    · cases h
    · exact isInReach_of_assemble h
  · cases h

/-! ## Instants in documents -/

theorem decoder_reads {t : Instant} (ht : isInReach t.day = true) : decoder.Reads (toJson t) t := by
  rintro origin _ ⟨⟩
  rw [decoder, read_write ht]

theorem decoder_yields : decoder.Yields fun t => isInReach t.day = true := by
  intro origin s t h
  unfold decoder at h
  split at h
  · split at h
    · next hread => exact Except.ok.inj h ▸ isInReach_of_read hread
    · cases h
  · exact absurd h (Json.mistyped_ne_ok _ _ t)

end StagedTests.Rfc3339
