import StagedTests.Proofs.Text.Trim
import StagedTests.Resource.Quantity

/-!
# The grammar of quantities

A quantity is a sign, a number and a suffix, of which only the number must be there. The letter `E`
begins three kinds of suffixes, but the parts of a quantity are found from left to right: a number
goes as far as there are digits, since no suffix begins with a digit or a point.
-/

namespace StagedTests.Quantity

open Text (takeWhile_append_stop dropWhile_append_stop)

def signs : List (List Char) := [[], ['+'], ['-']]

def IsDigits (cs : List Char) : Prop := cs ≠ [] ∧ ∀ c ∈ cs, c.isDigit = true

inductive IsNumber : List Char → Prop
  | whole {ds : List Char} (h : IsDigits ds) : IsNumber ds
  | pointed {ds fs : List Char} (hds : IsDigits ds) (hfs : ∀ c ∈ fs, c.isDigit = true) :
      IsNumber (ds ++ '.' :: fs)
  | fraction {fs : List Char} (h : IsDigits fs) : IsNumber ('.' :: fs)

/-- What may stand behind a number: a binary multiple, a decimal one, or a power of ten. -/
inductive IsSuffix : List Char → Prop
  | none : IsSuffix []
  | binary {c : Char} (h : c ∈ ['K', 'M', 'G', 'T', 'P', 'E']) : IsSuffix [c, 'i']
  | decimal {c : Char} (h : c ∈ ['n', 'u', 'm', 'k', 'M', 'G', 'T', 'P', 'E']) : IsSuffix [c]
  | power {e : Char} {sign ds : List Char} (he : e ∈ ['e', 'E']) (hsign : sign ∈ signs)
      (hds : IsDigits ds) : IsSuffix (e :: (sign ++ ds))

/-- A text that is written as the grammar says. -/
def IsWritten (s : String) : Prop :=
  ∃ sign ∈ signs, ∃ number suffix, IsNumber number ∧ IsSuffix suffix ∧
    s.toList = sign ++ number ++ suffix

/-- A text that is a quantity but for white space at its ends. -/
def IsIn (s : String) : Prop := IsWritten (Text.trim s)

def trimmed (s : String) : Quantity := ⟨Text.trim s⟩

/-! ## Signs and exponents -/

theorem exists_sign (cs : List Char) : ∃ sign ∈ signs, cs = sign ++ dropSign cs := by
  unfold dropSign
  split
  · exact ⟨['+'], by simp [signs], rfl⟩
  · exact ⟨['-'], by simp [signs], rfl⟩
  · exact ⟨[], by simp [signs], rfl⟩

theorem dropSign_append {sign cs : List Char} (hsign : sign ∈ signs)
    (hcs : ∀ c ∈ cs.head?, c ≠ '+' ∧ c ≠ '-') : dropSign (sign ++ cs) = cs := by
  simp only [signs, List.mem_cons, List.not_mem_nil, or_false] at hsign
  rcases hsign with rfl | rfl | rfl
  · cases cs with
    | nil => rfl
    | cons c cs =>
      obtain ⟨hplus, hminus⟩ := hcs c rfl
      simp [dropSign, hplus, hminus]
  · rfl
  · rfl

theorem ne_sign {c : Char} (h : c.isDigit = true ∨ c = '.') : c ≠ '+' ∧ c ≠ '-' := by
  constructor
  · intro hplus
    subst hplus
    exact absurd h (by decide)
  · intro hminus
    subst hminus
    exact absurd h (by decide)

theorem IsDigits.head_ne_sign {ds : List Char} (h : IsDigits ds) :
    ∀ c ∈ ds.head?, c ≠ '+' ∧ c ≠ '-' := by
  intro c hc
  exact ne_sign (.inl (h.2 c (List.mem_of_mem_head? hc)))

theorem isDigits_iff (cs : List Char) :
    (!cs.isEmpty && cs.all Char.isDigit) = true ↔ IsDigits cs := by
  simp [IsDigits]

theorem isExponent_iff (cs : List Char) :
    isExponent cs = true ↔ ∃ sign ∈ signs, ∃ ds, IsDigits ds ∧ cs = sign ++ ds := by
  rw [isExponent, isDigits_iff]
  constructor
  · intro h
    obtain ⟨sign, hsign, hcs⟩ := exists_sign cs
    exact ⟨sign, hsign, dropSign cs, h, hcs⟩
  · rintro ⟨sign, hsign, ds, hds, rfl⟩
    rwa [dropSign_append hsign hds.head_ne_sign]

/-! ## Suffixes -/

theorem isSuffix_iff (cs : List Char) : isSuffix cs = true ↔ IsSuffix cs := by
  constructor
  · intro h
    match cs with
    | [] => exact .none
    | [c] => exact .decimal (List.contains_iff_mem.mp h)
    | c :: d :: rest =>
      simp only [isSuffix, Bool.or_eq_true, Bool.and_eq_true, beq_iff_eq] at h
      rcases h with ⟨hc, hrest⟩ | ⟨hc, hexponent⟩
      · rw [hrest]
        exact .binary (List.contains_iff_mem.mp hc)
      · obtain ⟨sign, hsign, ds, hds, hcs⟩ := (isExponent_iff _).mp hexponent
        rw [hcs]
        exact .power (by simpa using hc) hsign hds
  · intro h
    cases h with
    | none => rfl
    | @binary c h =>
      have hc : c ∈ binaryMultiples := h
      simp [isSuffix, hc]
    | decimal h => exact List.contains_iff_mem.mpr h
    | @power e sign ds he hsign hds =>
      have hexponent := (isExponent_iff _).mpr ⟨sign, hsign, ds, hds, rfl⟩
      obtain ⟨d, rest, hrest⟩ : ∃ d rest, sign ++ ds = d :: rest :=
        List.exists_cons_of_ne_nil (List.append_ne_nil_of_right_ne_nil sign hds.1)
      rw [hrest] at hexponent ⊢
      have hc : (e == 'e' || e == 'E') = true := by simpa using he
      simp [isSuffix, hc, hexponent]

def suffixHeads : List Char :=
  ['K', 'M', 'G', 'T', 'P', 'E'] ++ ['n', 'u', 'm', 'k', 'M', 'G', 'T', 'P', 'E'] ++ ['e', 'E']

theorem of_mem_suffixHeads {c : Char} (h : c ∈ suffixHeads) : c.isDigit = false ∧ c ≠ '.' := by
  have hall : suffixHeads.all (fun c => !c.isDigit && c != '.') = true := by decide
  simpa using List.all_eq_true.mp hall c h

theorem IsSuffix.head {cs : List Char} (h : IsSuffix cs) :
    ∀ c ∈ cs.head?, c.isDigit = false ∧ c ≠ '.' := by
  intro c hc
  apply of_mem_suffixHeads
  cases h with
  | none => cases hc
  | binary h =>
    obtain rfl := Option.some.inj hc
    exact List.mem_append_left _ (List.mem_append_left _ h)
  | decimal h =>
    obtain rfl := Option.some.inj hc
    exact List.mem_append_left _ (List.mem_append_right _ h)
  | power he hsign hds =>
    obtain rfl := Option.some.inj hc
    exact List.mem_append_right _ he

/-! ## Amounts -/

theorem IsNumber.head {cs : List Char} (h : IsNumber cs) :
    ∃ c rest, cs = c :: rest ∧ (c.isDigit = true ∨ c = '.') := by
  cases h with
  | whole h =>
    obtain ⟨c, rest, rfl⟩ := List.exists_cons_of_ne_nil h.1
    exact ⟨c, rest, rfl, .inl (h.2 c List.mem_cons_self)⟩
  | pointed h hfs =>
    obtain ⟨c, rest, rfl⟩ := List.exists_cons_of_ne_nil h.1
    exact ⟨c, _, rfl, .inl (h.2 c List.mem_cons_self)⟩
  | fraction h => exact ⟨'.', _, rfl, .inr rfl⟩

theorem isAmount_point {ds rest : List Char} (hds : ∀ c ∈ ds, c.isDigit = true) :
    isAmount (ds ++ '.' :: rest) =
      ((!ds.isEmpty || !(rest.takeWhile Char.isDigit).isEmpty) &&
        isSuffix (rest.dropWhile Char.isDigit)) := by
  have hpoint : ∀ c ∈ ('.' :: rest).head?, c.isDigit = false := by
    rintro c ⟨⟩
    rfl
  simp only [isAmount, takeWhile_append_stop hds hpoint, dropWhile_append_stop hds hpoint]

theorem isAmount_whole {ds rest : List Char} (hds : ∀ c ∈ ds, c.isDigit = true)
    (hrest : ∀ c ∈ rest.head?, c.isDigit = false ∧ c ≠ '.') :
    isAmount (ds ++ rest) = (!ds.isEmpty && isSuffix rest) := by
  have hstop : ∀ c ∈ rest.head?, c.isDigit = false := fun c hc => (hrest c hc).1
  simp only [isAmount, takeWhile_append_stop hds hstop, dropWhile_append_stop hds hstop]
  split
  · exact absurd rfl (hrest '.' rfl).2
  · rfl

theorem isAmount_of_parts {number suffix : List Char} (hnumber : IsNumber number)
    (hsuffix : IsSuffix suffix) : isAmount (number ++ suffix) = true := by
  have hstop : ∀ c ∈ suffix.head?, c.isDigit = false := fun c hc => (hsuffix.head c hc).1
  cases hnumber with
  | whole h =>
    rw [isAmount_whole h.2 hsuffix.head, (isSuffix_iff suffix).mpr hsuffix]
    simp [h.1]
  | pointed hds hfs =>
    rw [List.append_assoc, List.cons_append, isAmount_point hds.2, dropWhile_append_stop hfs hstop,
      (isSuffix_iff suffix).mpr hsuffix]
    simp [hds.1]
  | @fraction fs h =>
    have hpoint : isAmount ([] ++ '.' :: (fs ++ suffix)) = true := by
      rw [isAmount_point (by simp), takeWhile_append_stop h.2 hstop, dropWhile_append_stop h.2 hstop,
        (isSuffix_iff suffix).mpr hsuffix]
      simp [h.1]
    exact hpoint

theorem parts_of_isAmount {cs : List Char} (h : isAmount cs = true) :
    ∃ number suffix, IsNumber number ∧ IsSuffix suffix ∧ cs = number ++ suffix := by
  have hcut : ∀ l : List Char, l = l.takeWhile Char.isDigit ++ l.dropWhile Char.isDigit :=
    fun l => List.takeWhile_append_dropWhile.symm
  have hdigits : ∀ l : List Char, ∀ c ∈ l.takeWhile Char.isDigit, c.isDigit = true :=
    fun l c hc => List.mem_takeWhile_imp hc
  unfold isAmount at h
  split at h
  · next rest hrest =>
    obtain ⟨hsome, hsuffix⟩ := Bool.and_eq_true_iff.mp h
    refine ⟨cs.takeWhile Char.isDigit ++ '.' :: rest.takeWhile Char.isDigit,
      rest.dropWhile Char.isDigit, ?_, (isSuffix_iff _).mp hsuffix, ?_⟩
    · by_cases hwhole : cs.takeWhile Char.isDigit = []
      · rw [hwhole]
        exact .fraction ⟨by simpa [hwhole] using hsome, hdigits rest⟩
      · exact .pointed ⟨hwhole, hdigits cs⟩ (hdigits rest)
    · rw [List.append_assoc, List.cons_append, ← hcut rest, ← hrest, ← hcut cs]
  · obtain ⟨hsome, hsuffix⟩ := Bool.and_eq_true_iff.mp h
    refine ⟨cs.takeWhile Char.isDigit, _, .whole ⟨by simpa using hsome, hdigits cs⟩,
      (isSuffix_iff _).mp hsuffix, hcut cs⟩

theorem isAmount_iff (cs : List Char) :
    isAmount cs = true ↔
      ∃ number suffix, IsNumber number ∧ IsSuffix suffix ∧ cs = number ++ suffix := by
  constructor
  · exact parts_of_isAmount
  · rintro ⟨number, suffix, hnumber, hsuffix, rfl⟩
    exact isAmount_of_parts hnumber hsuffix

/-! ## Texts -/

theorem isWritten_iff (s : String) : IsWritten s ↔ isAmount (dropSign s.toList) = true := by
  rw [isAmount_iff]
  constructor
  · rintro ⟨sign, hsign, number, suffix, hnumber, hsuffix, hs⟩
    refine ⟨number, suffix, hnumber, hsuffix, ?_⟩
    rw [hs, List.append_assoc]
    apply dropSign_append hsign
    obtain ⟨c, rest, rfl, hc⟩ := hnumber.head
    intro d hd
    obtain rfl := Option.some.inj hd
    exact ne_sign hc
  · rintro ⟨number, suffix, hnumber, hsuffix, hrest⟩
    obtain ⟨sign, hsign, hs⟩ := exists_sign s.toList
    exact ⟨sign, hsign, number, suffix, hnumber, hsuffix, by rw [hs, hrest, List.append_assoc]⟩

theorem parse?_eq (s : String) :
    parse? s = if isAmount (dropSign (Text.trim s).toList) then some ⟨Text.trim s⟩ else none :=
  rfl

theorem parse?_of_isIn {s : String} (h : IsIn s) : parse? s = some (trimmed s) := by
  rw [parse?_eq, if_pos ((isWritten_iff _).mp h)]
  rfl

theorem parse?_eq_none_iff (s : String) : parse? s = none ↔ ¬ IsIn s := by
  rw [parse?_eq, IsIn, isWritten_iff]
  split <;> simp_all

theorem parse?_eq_some_iff (s : String) (q : Quantity) :
    parse? s = some q ↔ Text.trim s = q.text ∧ IsWritten q.text := by
  rw [parse?_eq, isWritten_iff]
  constructor
  · intro h
    split at h
    · next hamount =>
      obtain rfl := Option.some.inj h
      exact ⟨rfl, hamount⟩
    · cases h
  · rintro ⟨htrim, hwritten⟩
    rw [htrim, if_pos hwritten]

/-- A text is taken for a quantity if and only if it is one but for white space at its ends, and the
quantity is then taken for itself. -/
theorem parse?_accepts (s : String) (q : Quantity) :
    (parse? s = some q ↔ Text.IsTrimmed s q.text ∧ IsWritten q.text) ∧
      (parse? s = some q → parse? q.text = some q) := by
  constructor
  · rw [parse?_eq_some_iff, Text.trim_eq_iff]
  · intro h
    obtain ⟨htrim, hwritten⟩ := (parse?_eq_some_iff s q).mp h
    have hagain : Text.trim q.text = q.text := by
      rw [← htrim, Text.trim_trim]
    exact (parse?_eq_some_iff q.text q).mpr ⟨hagain, hwritten⟩

theorem parse?_accepts_exponent :
    parse? "\u00a0+.5E-3\n" = some ⟨"+.5E-3"⟩ ∧ Text.IsTrimmed "\u00a0+.5E-3\n" "+.5E-3" ∧
      IsWritten "+.5E-3" ∧ parse? "+.5E-3" = some ⟨"+.5E-3"⟩ := by
  obtain ⟨haccepts, hagain⟩ := parse?_accepts "\u00a0+.5E-3\n" ⟨"+.5E-3"⟩
  have hread : parse? "\u00a0+.5E-3\n" = some ⟨"+.5E-3"⟩ := by decide +kernel
  obtain ⟨htrimmed, hwritten⟩ := haccepts.mp hread
  exact ⟨hread, htrimmed, hwritten, hagain hread⟩

end StagedTests.Quantity
