import Mathlib.Data.List.Basic
import Mathlib.Data.Nat.Digits.Lemmas
import StagedTests.Json.Printer
import StagedTests.Json.Reader
import StagedTests.Proofs.Text.Scan

/-!
# Written texts are read

What `compact` writes, the reader takes back: `readValue_compact` follows a text behind which an
item, a member or the whole text may end, and finds a source that holds the value written. Places
play no part in it, so `Source.Holds` looks past the spans.
-/

namespace StagedTests.Json

/-! ## Digits -/

theorem isDigit_of_mem_decimalDigits {n : Nat} {c : Char} (h : c ∈ decimalDigits n) :
    c.isDigit = true :=
  Nat.isDigit_of_mem_toDigits (by decide) (by decide) h

theorem ne_of_isDigit {c d : Char} (hc : c.isDigit = true) (hd : d.isDigit = false) : c ≠ d := by
  rintro rfl
  rw [hc] at hd
  exact absurd hd (by decide)

theorem decimalDigits_ne_nil (n : Nat) : decimalDigits n ≠ [] :=
  Nat.toDigits_ne_nil

theorem digitsValue_decimalDigits (n : Nat) : digitsValue (decimalDigits n) = n := by
  have h := Nat.ofDigitChars_ten_toDigits (n := n)
  rwa [Nat.ofDigitChars_eq_foldl] at h

theorem decimalDigits_zero_cons {n : Nat} {cs : List Char} (h : decimalDigits n = '0' :: cs) :
    n = 0 ∧ cs = [] := by
  induction n using Nat.strongRecOn generalizing cs with
  | ind n ih =>
    rw [decimalDigits, Nat.toDigits_eq_if (by decide)] at h
    split at h
    · next hn =>
      obtain ⟨hd, rfl⟩ := List.cons.inj h
      refine ⟨?_, rfl⟩
      interval_cases n <;> revert hd <;> decide
    · next hn =>
      obtain ⟨c, t, ht⟩ := List.exists_cons_of_ne_nil (decimalDigits_ne_nil (n / 10))
      rw [decimalDigits] at ht
      rw [ht] at h
      have hc : c = '0' := (List.cons.inj h).1
      have hz := (ih (n / 10) (by omega) (hc ▸ ht)).1
      omega

/-- The characters that may stand behind a value: those that go on or end what holds it. -/
def Ends (rest : List Char) : Prop :=
  ∀ c ∈ rest.head?, c = ',' ∨ c = ']' ∨ c = '\x7d'

theorem ends_nil : Ends [] := by simp [Ends]

theorem ends_comma (rest : List Char) : Ends (',' :: rest) := by simp [Ends]

theorem ends_bracket (rest : List Char) : Ends (']' :: rest) := by simp [Ends]

theorem ends_brace (rest : List Char) : Ends ('\x7d' :: rest) := by simp [Ends]

theorem readDigits_append {ds rest : List Char} (hd : ∀ c ∈ ds, c.isDigit = true)
    (hr : Ends rest) (place : Nat) :
    readDigits ⟨place, ds ++ rest⟩ = (ds, ⟨place + ds.length, rest⟩) := by
  have hstop : ∀ c ∈ rest.head?, c.isDigit = false := by
    intro c hc
    rcases hr c hc with rfl | rfl | rfl <;> decide
  simp only [readDigits, Text.takeWhile_append_stop hd hstop, Text.dropWhile_append_stop hd hstop]

/-! ## Numbers -/

theorem readFraction_of_ends {rest : List Char} (hr : Ends rest) (p : Span) (n : Numeral)
    (place : Nat) : readFraction p n ⟨place, rest⟩ = finishNumber p n ⟨place, rest⟩ := by
  cases rest with
  | nil => rfl
  | cons c rest =>
    rcases hr c rfl with rfl | rfl | rfl <;> rfl

/-- Whole numbers that are read exactly. -/
def IsExact (i : Int) : Prop :=
  -2 ^ 63 ≤ i ∧ i < 2 ^ 64

theorem value?_decimalDigits {i : Int} (hi : IsExact i) :
    Numeral.value? ⟨i < 0, decimalDigits i.natAbs, none, none⟩ = some (.whole i) := by
  obtain ⟨hlow, hhigh⟩ := hi
  simp only [Numeral.value?, digitsValue_decimalDigits, maxWhole, Nat.pow_eq]
  by_cases h : i < 0
  · have habs : -(i.natAbs : Int) = i := by omega
    have hfits : i.natAbs ≠ 0 ∧ i.natAbs ≤ 2 ^ 63 := by omega
    rw [if_pos ⟨rfl, rfl, by simpa [h] using hfits⟩]
    simp only [h, habs, decide_true, if_true]
  · have habs : (i.natAbs : Int) = i := by omega
    have hfits : i.natAbs ≤ 2 ^ 64 - 1 := by omega
    rw [if_pos ⟨rfl, rfl, by simpa [h] using hfits⟩]
    simp [h, habs]

theorem readDigits_decimalDigits {i : Int} (hi : IsExact i) {rest : List Char} (hr : Ends rest)
    (p : Span) (place : Nat) :
    ∃ stop, (match readDigits ⟨place, decimalDigits i.natAbs ++ rest⟩ with
      | ([], c) => noDigit p c
      | ('0' :: _ :: _, _) =>
        let f : Placed Fault := ⟨.invalidNumber, place + 2⟩
        (.unreadable p .bare f (some f), none)
      | (digits, c) => readFraction p ⟨i < 0, digits, none, none⟩ c) =
      (.number { p with stop } (.whole i), some ⟨stop, rest⟩) := by
  have hdigit : ∀ c ∈ decimalDigits i.natAbs, c.isDigit = true :=
    fun c hc => isDigit_of_mem_decimalDigits hc
  rw [readDigits_append hdigit hr]
  have hvalue := value?_decimalDigits hi
  have hzero : ∀ cs, decimalDigits i.natAbs = '0' :: cs → cs = [] :=
    fun cs h => (decimalDigits_zero_cons h).2
  have hne := decimalDigits_ne_nil i.natAbs
  generalize decimalDigits i.natAbs = ds at hvalue hzero hne
  refine ⟨place + ds.length, ?_⟩
  split
  · next h => exact absurd (Prod.mk.inj h).1 hne
  · next h => exact absurd (hzero _ (Prod.mk.inj h).1) (by simp)
  · next h =>
    obtain ⟨rfl, rfl⟩ := Prod.mk.inj h
    rw [readFraction_of_ends hr, finishNumber, hvalue]

theorem readNumber_wholeText {i : Int} (hi : IsExact i) {rest : List Char} (hr : Ends rest)
    (p : Span) (place : Nat) :
    ∃ stop, readNumber p ⟨place, wholeText i ++ rest⟩ =
      (.number { p with stop } (.whole i), some ⟨stop, rest⟩) := by
  unfold wholeText
  by_cases h : i < 0
  · obtain ⟨stop, hstop⟩ := readDigits_decimalDigits hi hr p (place + 1)
    refine ⟨stop, ?_⟩
    rw [← hstop]
    simp only [h, if_true, decide_true]
    rfl
  · obtain ⟨stop, hstop⟩ := readDigits_decimalDigits hi hr p place
    refine ⟨stop, ?_⟩
    have hsign : ∀ cs, decimalDigits i.natAbs ++ rest ≠ '-' :: cs := by
      obtain ⟨d, ds, hds⟩ := List.exists_cons_of_ne_nil (decimalDigits_ne_nil i.natAbs)
      rw [hds]
      rintro cs hcs
      have hd : d.isDigit = true := isDigit_of_mem_decimalDigits (hds ▸ List.mem_cons_self)
      exact ne_of_isDigit hd (by decide) (List.cons.inj hcs).1
    simp only [h, if_false, decide_false, readNumber] at hstop ⊢
    exact hstop

/-! ## Strings -/

theorem hexQuad_controlEscape {n : Nat} (h : n < 32) (place : Nat) (rest : List Char) :
    ∃ ds : List Char, controlEscape (Char.ofNat n) = '\\' :: 'u' :: ds ∧
      hexQuad ⟨place, ds ++ rest⟩ = .ok (n, ⟨place + 4, rest⟩) := by
  interval_cases n <;> exact ⟨_, rfl, rfl⟩

theorem stringStep_escapeChar (c : Char) (place : Nat) (rest : List Char) :
    ∃ stop, stringStep place (escapeChar c ++ rest) = .char c ⟨stop, rest⟩ := by
  by_cases hshort : c ∈ ['"', '\\', '\x08', '\x0c', '\n', '\r', '\t']
  · simp only [List.mem_cons, List.not_mem_nil, or_false] at hshort
    rcases hshort with rfl | rfl | rfl | rfl | rfl | rfl | rfl <;> exact ⟨_, rfl⟩
  have hlong : escapeChar c = if c < ' ' then controlEscape c else [c] := by
    simp only [List.mem_cons, List.not_mem_nil, or_false, not_or] at hshort
    simp only [escapeChar, hshort, if_false]
  rw [hlong]
  by_cases hcontrol : c < ' '
  · have hn : c.toNat < 32 := hcontrol
    obtain ⟨ds, hds, hquad⟩ := hexQuad_controlEscape hn (place + 2) rest
    rw [Char.ofNat_toNat] at hds
    refine ⟨place + 6, ?_⟩
    have hstep : stringStep place (controlEscape c ++ rest) = unicodeStep ⟨place + 2, ds ++ rest⟩ := by
      rw [hds]
      rfl
    rw [if_pos hcontrol, hstep, unicodeStep, hquad]
    have hlow : ¬ (0xdc00 ≤ c.toNat ∧ c.toNat ≤ 0xdfff) := by omega
    have hplain : c.toNat < 0xd800 ∨ 0xdbff < c.toNat := by omega
    simp only [hlow, hplain, if_true, if_false, Char.ofNat_toNat]
  · refine ⟨place + c.utf8Size, ?_⟩
    simp only [List.mem_cons, List.not_mem_nil, or_false, not_or] at hshort
    rw [if_neg hcontrol, List.singleton_append]
    unfold stringStep
    split <;> simp_all

theorem stringRest_escaped (cs : List Char) {fuel : Nat} (hfuel : cs.length < fuel) (place : Nat)
    (rest : List Char) :
    ∃ stop, stringRest fuel ⟨place, cs.flatMap escapeChar ++ '"' :: rest⟩ =
      (.ok cs, .ok ⟨stop, rest⟩) := by
  induction cs generalizing fuel place with
  | nil =>
    cases fuel with
    | zero => simp at hfuel
    | succ fuel => exact ⟨place + 1, rfl⟩
  | cons c cs ih =>
    cases fuel with
    | zero => simp at hfuel
    | succ fuel =>
      obtain ⟨next, hstep⟩ :=
        stringStep_escapeChar c place (cs.flatMap escapeChar ++ '"' :: rest)
      obtain ⟨stop, hrest⟩ := ih (by simpa using hfuel) next
      refine ⟨stop, ?_⟩
      rw [List.flatMap_cons, List.append_assoc, stringRest]
      simp only [hstep, hrest]
      rfl

theorem readString_stringText (s : String) {fuel : Nat} (hfuel : s.toList.length < fuel)
    (p : Span) (place : Nat) (rest : List Char) :
    ∃ stop, readString fuel p ⟨place, s.toList.flatMap escapeChar ++ '"' :: rest⟩ =
      (.string { p with stop } s, some ⟨stop, rest⟩) := by
  obtain ⟨stop, hstop⟩ := stringRest_escaped s.toList hfuel place rest
  refine ⟨stop, ?_⟩
  simp only [readString, hstop, String.ofList_toList]

theorem length_le_flatMap_escapeChar (cs : List Char) :
    cs.length ≤ (cs.flatMap escapeChar).length := by
  induction cs with
  | nil => simp
  | cons c cs ih =>
    have hc : 1 ≤ (escapeChar c).length := by
      unfold escapeChar
      split_ifs <;> simp [controlEscape]
    simp only [List.flatMap_cons, List.length_append, List.length_cons]
    omega

/-! ## Values -/

mutual

/-- The source is the value, wherever in a text it stands. -/
inductive Source.Holds : Source → Json → Prop
  | null (p : Span) : Holds (.null p) .null
  | bool (p : Span) (b : Bool) : Holds (.bool p b) (.bool b)
  | number (p : Span) (n : Number) : Holds (.number p n) (.number n)
  | string (p : Span) (s : String) : Holds (.string p s) (.string s)
  | array (p : Span) (inner : Nat) {items : List Source} {vs : List Json}
      (h : HoldsItems items vs) : Holds (.array p inner items none) (.array vs)
  | object (p : Span) (inner : Nat) {members : List (Source × Source)}
      {vs : List (String × Json)} (h : HoldsMembers members vs) :
      Holds (.object p inner members none) (.object vs)

inductive Source.HoldsItems : List Source → List Json → Prop
  | nil : HoldsItems [] []
  | cons {s : Source} {items : List Source} {v : Json} {vs : List Json} (h : Holds s v)
      (hs : HoldsItems items vs) : HoldsItems (s :: items) (v :: vs)

inductive Source.HoldsMembers : List (Source × Source) → List (String × Json) → Prop
  | nil : HoldsMembers [] []
  | cons (p : Span) (k : String) {s : Source} {members : List (Source × Source)} {v : Json}
      {vs : List (String × Json)} (h : Holds s v) (hs : HoldsMembers members vs) :
      HoldsMembers ((.string p k, s) :: members) ((k, v) :: vs)

end

theorem Source.Holds.before {s : Source} {v : Json} (h : s.Holds v) (next : Nat) :
    (s.before next).Holds v := by
  cases h <;> constructor <;> assumption

mutual

def IsWhole : Json → Prop
  | .number (.whole i) => IsExact i
  | .number (.real _) => False
  | .array items => AreWhole items
  | .object members => MembersAreWhole members
  | _ => True

def AreWhole : List Json → Prop
  | [] => True
  | v :: rest => v.IsWhole ∧ AreWhole rest

def MembersAreWhole : List (String × Json) → Prop
  | [] => True
  | (_, v) :: rest => v.IsWhole ∧ MembersAreWhole rest

end

theorem wholeText_head (i : Int) :
    ∃ c cs, wholeText i = c :: cs ∧ (c = '-' ∨ c.isDigit = true) := by
  unfold wholeText
  split
  · exact ⟨'-', _, rfl, .inl rfl⟩
  · obtain ⟨d, ds, hds⟩ := List.exists_cons_of_ne_nil (decimalDigits_ne_nil i.natAbs)
    exact ⟨d, ds, hds, .inr (isDigit_of_mem_decimalDigits (hds ▸ List.mem_cons_self))⟩

theorem compactChars_head {v : Json} (hv : v.IsWhole) :
    ∃ c cs, v.compactChars = c :: cs ∧ isGap c = false ∧ c ≠ ']' := by
  cases v with
  | null => exact ⟨'n', _, rfl, by decide⟩
  | bool b => cases b <;> exact ⟨_, _, rfl, by decide⟩
  | string s => exact ⟨'"', _, rfl, by decide⟩
  | array items => exact ⟨'[', _, rfl, by decide⟩
  | object members => exact ⟨'\x7b', _, rfl, by decide⟩
  | number n =>
    cases n with
    | real x => exact hv.elim
    | whole i =>
      obtain ⟨c, cs, hcs, rfl | hc⟩ := wholeText_head i
      · exact ⟨'-', cs, hcs, by decide⟩
      · refine ⟨c, cs, hcs, ?_, ne_of_isDigit hc (by decide)⟩
        simp [isGap, ne_of_isDigit hc]

/-! ## Between the tokens -/

theorem skipGaps_cons {c : Char} (hc : isGap c = false) (place : Nat) (cs : List Char) :
    Cursor.skipGaps ⟨place, c :: cs⟩ = ⟨place, c :: cs⟩ := by
  simp [Cursor.skipGaps, Cursor.skipWhile, hc]

theorem isGap_colon : isGap ':' = false := by decide

theorem isGap_quote : isGap '"' = false := by decide

theorem skipGaps_of_ends {rest : List Char} (hr : Ends rest) (place : Nat) :
    Cursor.skipGaps ⟨place, rest⟩ = ⟨place, rest⟩ := by
  cases rest with
  | nil => rfl
  | cons c rest =>
    have hc : isGap c = false := by
      rcases hr c rfl with rfl | rfl | rfl <;> decide
    exact skipGaps_cons hc place rest

theorem compactItems_cons_cons (v w : Json) (rest : List Json) :
    compactItems (v :: w :: rest) = v.compactChars ++ ',' :: compactItems (w :: rest) := rfl

theorem compactMembers_cons_cons (k : String) (v : Json) (e : String × Json)
    (rest : List (String × Json)) :
    compactMembers ((k, v) :: e :: rest) =
      stringText k ++ ':' :: v.compactChars ++ ',' :: compactMembers (e :: rest) := rfl

theorem compactItems_head {v : Json} (hv : v.IsWhole) (vs : List Json) :
    ∃ c cs, compactItems (v :: vs) = c :: cs ∧ isGap c = false ∧ c ≠ ']' := by
  obtain ⟨c, cs, hcs, hc⟩ := compactChars_head hv
  cases vs with
  | nil => exact ⟨c, cs, hcs, hc⟩
  | cons w vs =>
    rw [compactItems_cons_cons, hcs]
    exact ⟨c, _, rfl, hc⟩

theorem compactMembers_head (k : String) (v : Json) (vs : List (String × Json)) :
    ∃ cs, compactMembers ((k, v) :: vs) = '"' :: cs := by
  cases vs <;> exact ⟨_, rfl⟩

theorem readValue_numeral {c : Char} (hc : c = '-' ∨ c.isDigit = true) (fuel depth place : Nat)
    (cs : List Char) :
    readValue (fuel + 1) depth ⟨place, c :: cs⟩ =
      readNumber ⟨place, place, place, depth⟩ ⟨place, c :: cs⟩ := by
  rcases hc with rfl | hc
  · rfl
  · have hgap : isGap c = false := by
      simp [isGap, ne_of_isDigit hc]
    unfold readValue
    rw [skipGaps_cons hgap]
    dsimp only
    split <;> simp_all

theorem readValue_items {fuel depth place : Nat} {c : Char} {cs : List Char} {items : List Source}
    {after : Cursor} (hgap : isGap c = false) (hend : c ≠ ']')
    (h : readItems fuel (depth + 1) ⟨place + 1, c :: cs⟩ = (items, none, some after)) :
    ∃ p inner, readValue (fuel + 1) depth ⟨place, '[' :: c :: cs⟩ =
      (.array p inner items none, some after) := by
  refine ⟨⟨place, after.place, place, depth + 1⟩,
    innerPlace ']' true ⟨place + 1, c :: cs⟩, ?_⟩
  unfold readValue
  rw [skipGaps_cons (by decide)]
  simp only
  rw [skipGaps_cons hgap]
  split
  · next heq => exact absurd (List.cons.inj heq).1 hend
  · next heq => exact absurd heq (by simp)
  · simp only [h]
    rfl

theorem readValue_members {fuel depth place : Nat} {cs : List Char}
    {members : List (Source × Source)} {after : Cursor}
    (h : ∀ missing, readMembers fuel (depth + 1) ⟨place + 1, '"' :: cs⟩ missing =
      (members, none, some after)) :
    ∃ p inner, readValue (fuel + 1) depth ⟨place, '\x7b' :: '"' :: cs⟩ =
      (.object p inner members none, some after) := by
  refine ⟨⟨place, after.place, place, depth + 1⟩,
    innerPlace '\x7d' false ⟨place + 1, '"' :: cs⟩, ?_⟩
  unfold readValue
  rw [skipGaps_cons (by decide)]
  simp only
  rw [skipGaps_cons (by decide)]
  simp only [h]
  rfl

mutual

/-- The reader finds the value in its text. -/
theorem readValue_compactChars : ∀ (v : Json), v.IsWhole → ∀ (fuel depth place : Nat)
    (rest : List Char), v.compactChars.length ≤ fuel → Ends rest →
    ∃ s stop, readValue fuel depth ⟨place, v.compactChars ++ rest⟩ = (s, some ⟨stop, rest⟩) ∧
      s.Holds v
  | v, hv, 0, _, _, _, hfuel, _ => by
    obtain ⟨c, cs, hcs, -⟩ := compactChars_head hv
    simp [hcs] at hfuel
  | .null, _, fuel + 1, depth, place, rest, _, _ => by
    exact ⟨_, _, rfl, .null _⟩
  | .bool b, _, fuel + 1, depth, place, rest, _, _ => by
    cases b <;> exact ⟨_, _, rfl, .bool _ _⟩
  | .number (.whole i), hv, fuel + 1, depth, place, rest, _, hr => by
    obtain ⟨c, cs, hcs, hc⟩ := wholeText_head i
    obtain ⟨stop, hstop⟩ := readNumber_wholeText hv hr ⟨place, place, place, depth⟩ place
    refine ⟨.number ⟨place, stop, place, depth⟩ (.whole i), stop, ?_, .number _ _⟩
    rw [← hstop]
    simp only [compactChars, numberText, hcs, List.cons_append]
    exact readValue_numeral hc fuel depth place (cs ++ rest)
  | .string s, _, fuel + 1, depth, place, rest, hfuel, _ => by
    have hlength : s.toList.length < fuel + 1 := by
      have := length_le_flatMap_escapeChar s.toList
      simp only [compactChars, stringText, List.length_cons, List.length_append] at hfuel
      omega
    obtain ⟨stop, hstop⟩ :=
      readString_stringText s hlength ⟨place, place, place, depth⟩ (place + 1) rest
    refine ⟨.string ⟨place, stop, place, depth⟩ s, stop, ?_, .string _ _⟩
    rw [← hstop]
    simp only [compactChars, stringText, List.cons_append, List.append_assoc]
    rfl
  | .array [], _, fuel + 1, depth, place, rest, _, _ => by
    exact ⟨_, _, rfl, .array _ _ .nil⟩
  | .array (v :: vs), hv, fuel + 1, depth, place, rest, hfuel, _ => by
    have hlength : (compactItems (v :: vs)).length < fuel := by
      simp only [compactChars, List.length_cons, List.length_append] at hfuel
      omega
    obtain ⟨items, stop, hitems, hholds⟩ :=
      readItems_compactItems v vs hv fuel (depth + 1) (place + 1) rest hlength
    obtain ⟨c, cs, hcs, hgap, hend⟩ := compactItems_head hv.1 vs
    rw [hcs, List.cons_append] at hitems
    obtain ⟨p, inner, hread⟩ := readValue_items hgap hend hitems
    refine ⟨.array p inner items none, stop, ?_, .array p inner hholds⟩
    rw [← hread, compactChars, hcs]
    simp
  | .object [], _, fuel + 1, depth, place, rest, _, _ => by
    exact ⟨_, _, rfl, .object _ _ .nil⟩
  | .object ((k, v) :: vs), hv, fuel + 1, depth, place, rest, hfuel, _ => by
    have hlength : (compactMembers ((k, v) :: vs)).length < fuel := by
      simp only [compactChars, List.length_cons, List.length_append] at hfuel
      omega
    obtain ⟨members, stop, hmembers, hholds⟩ :=
      readMembers_compactMembers k v vs hv fuel (depth + 1) (place + 1) rest hlength
    obtain ⟨cs, hcs⟩ := compactMembers_head k v vs
    rw [hcs, List.cons_append] at hmembers
    obtain ⟨p, inner, hread⟩ := readValue_members hmembers
    refine ⟨.object p inner members none, stop, ?_, .object p inner hholds⟩
    rw [← hread, compactChars, hcs]
    simp
termination_by structural _ _ fuel => fuel

theorem readItems_compactItems : ∀ (v : Json) (vs : List Json), AreWhole (v :: vs) →
    ∀ (fuel depth place : Nat) (rest : List Char), (compactItems (v :: vs)).length < fuel →
    ∃ items stop, readItems fuel depth ⟨place, compactItems (v :: vs) ++ ']' :: rest⟩ =
      (items, none, some ⟨stop, rest⟩) ∧ Source.HoldsItems items (v :: vs)
  | _, _, _, 0, _, _, _, hfuel => absurd hfuel (Nat.not_lt_zero _)
  | v, [], hv, fuel + 1, depth, place, rest, hfuel => by
    obtain ⟨s, stop, hread, hholds⟩ := readValue_compactChars v hv.1 fuel depth place (']' :: rest)
      (Nat.le_of_lt_succ hfuel) (ends_bracket rest)
    refine ⟨[s.before stop], stop + 1, ?_, .cons (hholds.before stop) .nil⟩
    rw [readItems]
    simp only [compactItems, hread, withNext, skipGaps_of_ends (ends_bracket rest)]
  | v, w :: vs, hv, fuel + 1, depth, place, rest, hfuel => by
    have hlength : v.compactChars.length ≤ fuel ∧ (compactItems (w :: vs)).length < fuel := by
      simp only [compactItems_cons_cons, List.length_cons, List.length_append] at hfuel
      omega
    obtain ⟨s, stop, hread, hholds⟩ := readValue_compactChars v hv.1 fuel depth place
      (',' :: compactItems (w :: vs) ++ ']' :: rest) hlength.1 (ends_comma _)
    obtain ⟨items, last, hitems, hrest⟩ :=
      readItems_compactItems w vs hv.2 fuel depth (stop + 1) rest hlength.2
    refine ⟨s.before stop :: items, last, ?_, .cons (hholds.before stop) hrest⟩
    obtain ⟨c, cs, hcs, hgap, hend⟩ := compactItems_head hv.2.1 vs
    simp only [hcs, List.cons_append] at hitems hread
    rw [compactItems_cons_cons, readItems]
    simp only [hcs, List.append_assoc, List.cons_append, hread, withNext,
      skipGaps_of_ends (ends_comma _), skipGaps_cons hgap, afterComma, hend, if_false, hitems]
termination_by structural _ _ _ fuel => fuel

theorem readMembers_compactMembers : ∀ (k : String) (v : Json) (vs : List (String × Json)),
    MembersAreWhole ((k, v) :: vs) → ∀ (fuel depth place : Nat) (rest : List Char),
    (compactMembers ((k, v) :: vs)).length < fuel →
    ∃ members stop, (∀ missing,
      readMembers fuel depth ⟨place, compactMembers ((k, v) :: vs) ++ '\x7d' :: rest⟩ missing =
        (members, none, some ⟨stop, rest⟩)) ∧ Source.HoldsMembers members ((k, v) :: vs)
  | _, _, _, _, 0, _, _, _, hfuel => absurd hfuel (Nat.not_lt_zero _)
  | k, v, [], hv, fuel + 1, depth, place, rest, hfuel => by
    have hlength : k.toList.length < fuel + 1 ∧ v.compactChars.length ≤ fuel := by
      have := length_le_flatMap_escapeChar k.toList
      simp only [compactMembers, stringText, List.length_cons, List.length_append] at hfuel
      omega
    obtain ⟨behind, hname⟩ := readString_stringText k hlength.1 ⟨place, place, place, depth⟩
      (place + 1) (':' :: (v.compactChars ++ '\x7d' :: rest))
    obtain ⟨s, stop, hread, hholds⟩ := readValue_compactChars v hv.1 fuel depth (behind + 1)
      ('\x7d' :: rest) hlength.2 (ends_brace rest)
    refine ⟨[(.string ⟨place, behind, behind, depth⟩ k, s.before stop)], stop + 1,
      fun missing => ?_, .cons _ k (hholds.before stop) .nil⟩
    rw [readMembers]
    simp only [compactMembers, stringText, List.append_assoc, List.cons_append, List.nil_append,
      hname, withNext, skipGaps_cons isGap_colon, hread, skipGaps_of_ends (ends_brace rest),
      Source.before]
  | k, v, (l, w) :: vs, hv, fuel + 1, depth, place, rest, hfuel => by
    have hlength : k.toList.length < fuel + 1 ∧ v.compactChars.length ≤ fuel ∧
        (compactMembers ((l, w) :: vs)).length < fuel := by
      have := length_le_flatMap_escapeChar k.toList
      simp only [compactMembers_cons_cons, stringText, List.length_cons, List.length_append]
        at hfuel
      omega
    obtain ⟨behind, hname⟩ := readString_stringText k hlength.1 ⟨place, place, place, depth⟩
      (place + 1)
      (':' :: (v.compactChars ++ ',' :: (compactMembers ((l, w) :: vs) ++ '\x7d' :: rest)))
    obtain ⟨s, stop, hread, hholds⟩ := readValue_compactChars v hv.1 fuel depth (behind + 1)
      (',' :: (compactMembers ((l, w) :: vs) ++ '\x7d' :: rest)) hlength.2.1 (ends_comma _)
    obtain ⟨members, last, hmembers, hrest⟩ :=
      readMembers_compactMembers l w vs hv.2 fuel depth (stop + 1) rest hlength.2.2
    refine ⟨(.string ⟨place, behind, behind, depth⟩ k, s.before stop) :: members, last,
      fun missing => ?_, .cons _ k (hholds.before stop) hrest⟩
    obtain ⟨cs, hcs⟩ := compactMembers_head l w vs
    simp only [hcs, List.cons_append] at hname hread hmembers
    rw [readMembers, compactMembers_cons_cons]
    simp only [stringText, hcs, List.append_assoc, List.cons_append, List.nil_append, hname,
      withNext, skipGaps_cons isGap_colon, hread, skipGaps_of_ends (ends_comma _), Source.before,
      skipGaps_cons isGap_quote, hmembers]
termination_by structural _ _ _ _ fuel => fuel

end

theorem Document.ofText_compact {v : Json} (hv : v.IsWhole) :
    (Document.ofText v.compact).value.Holds v ∧ (Document.ofText v.compact).trailing = none := by
  have hlist : v.compact.toList = v.compactChars := String.toList_ofList
  obtain ⟨s, stop, hread, hholds⟩ := readValue_compactChars v hv (2 * v.compactChars.length + 2) 0 0
    [] (by omega) ends_nil
  rw [List.append_nil] at hread
  simp only [Document.ofText, Cursor.ofText, hlist, hread]
  exact ⟨hholds, rfl⟩

end StagedTests.Json
