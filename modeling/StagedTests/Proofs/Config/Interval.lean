import Mathlib.Algebra.Ring.Nat
import StagedTests.Config

/-!
# The time between two looks

A configuration keeps the time between two looks in whole milliseconds, as many as 64 bits hold. So
a span that is set is rounded down, and one of more milliseconds than that becomes the longest that
can be kept. The same is computed here a second time in words of fixed width, where a step whose
number does not fit into its word has no result: every step has one, and it is the exact number.
-/

namespace StagedTests

/-! ## Words -/

namespace Word

variable {n : Nat}

def mul? (a b : BitVec n) : Option (BitVec n) :=
  if BitVec.umulOverflow a b then none else some (a * b)

def add? (a b : BitVec n) : Option (BitVec n) :=
  if BitVec.uaddOverflow a b then none else some (a + b)

/-- The number in 64 bits, or the greatest number there if it is greater than that. -/
def clamp64 (a : BitVec n) : BitVec 64 :=
  if a.toNat < 2 ^ 64 then a.setWidth 64 else BitVec.allOnes 64

variable {a b : BitVec n} {x y : Nat}

theorem exists_mul? (ha : a.toNat = x) (hb : b.toNat = y) (h : x * y < 2 ^ n) :
    ∃ c, mul? a b = some c ∧ c.toNat = x * y := by
  subst ha hb
  refine ⟨a * b, ?_, ?_⟩
  · rw [mul?, BitVec.umulOverflow, decide_eq_false (Nat.not_le.mpr h)]
    rfl
  · rw [BitVec.toNat_mul, Nat.mod_eq_of_lt h]

theorem exists_add? (ha : a.toNat = x) (hb : b.toNat = y) (h : x + y < 2 ^ n) :
    ∃ c, add? a b = some c ∧ c.toNat = x + y := by
  subst ha hb
  refine ⟨a + b, ?_, ?_⟩
  · rw [add?, BitVec.uaddOverflow, decide_eq_false (Nat.not_le.mpr h)]
    rfl
  · rw [BitVec.toNat_add, Nat.mod_eq_of_lt h]

theorem toNat_setWidth_of_lt {m : Nat} (ha : a.toNat = x) (h : x < 2 ^ m) :
    (a.setWidth m).toNat = x := by
  rw [BitVec.toNat_setWidth, ha, Nat.mod_eq_of_lt h]

theorem toNat_clamp64 (a : BitVec n) : (clamp64 a).toNat = min a.toNat (2 ^ 64 - 1) := by
  unfold clamp64
  split
  · next h =>
    rw [toNat_setWidth_of_lt rfl h]
    omega
  · rw [BitVec.toNat_allOnes]
    omega

end Word

/-! ## Spans -/

namespace Span

/-- The length of a span in nanoseconds. -/
def length (s : Span) : Nat := s.seconds * 10 ^ 9 + s.nanos

/-- Spans are compared by their seconds, and by their nanoseconds only where these are equal. -/
instance : LE Span where
  le s t := s.seconds < t.seconds ∨ s.seconds = t.seconds ∧ s.nanos ≤ t.nanos

theorem le_def {s t : Span} :
    s ≤ t ↔ s.seconds < t.seconds ∨ s.seconds = t.seconds ∧ s.nanos ≤ t.nanos :=
  Iff.rfl

/-- Spans whose nanoseconds stay below one second are compared by their lengths. -/
theorem le_iff_length_le {s t : Span} (hs : s.nanos < 10 ^ 9) (ht : t.nanos < 10 ^ 9) :
    s ≤ t ↔ s.length ≤ t.length := by
  rw [le_def, length, length]
  omega

theorem maxMillis_eq : maxMillis = 2 ^ 64 - 1 := rfl

theorem toMillis_eq (s : Span) : s.toMillis = min (s.length / 10 ^ 6) (2 ^ 64 - 1) := by
  have hwhole : s.length / 10 ^ 6 = s.seconds * 1000 + s.nanos / 1000000 := by
    rw [length]
    omega
  rw [hwhole, toMillis, maxMillis_eq]

theorem length_ofMillis (ms : Nat) : (ofMillis ms).length = ms * 10 ^ 6 := by
  simp only [length, ofMillis]
  omega

theorem nanos_ofMillis (ms : Nat) : (ofMillis ms).nanos < 10 ^ 9 := by
  simp only [ofMillis]
  omega

theorem toMillis_ofMillis {ms : Nat} (h : ms < 2 ^ 64) : (ofMillis ms).toMillis = ms := by
  rw [toMillis_eq, length_ofMillis]
  omega

theorem toMillis_lt (s : Span) : s.toMillis < 2 ^ 64 := by
  rw [toMillis_eq]
  omega

/-- A span in words: the seconds have 64 bits, the nanoseconds 32 and stay below one second. -/
structure Words where
  seconds : BitVec 64
  nanos : BitVec 32
  nanos_lt : nanos.toNat < 10 ^ 9

namespace Words

def span (w : Words) : Span := ⟨w.seconds.toNat, w.nanos.toNat⟩

theorem exists_span_eq {s : Span} (hseconds : s.seconds < 2 ^ 64) (hnanos : s.nanos < 10 ^ 9) :
    ∃ w : Words, w.span = s := by
  have hbits : s.nanos % 2 ^ 32 = s.nanos := Nat.mod_eq_of_lt (by omega)
  refine ⟨⟨BitVec.ofNat 64 s.seconds, BitVec.ofNat 32 s.nanos, ?_⟩, ?_⟩
  · rwa [BitVec.toNat_ofNat, hbits]
  · rw [span, BitVec.toNat_ofNat, BitVec.toNat_ofNat, hbits, Nat.mod_eq_of_lt hseconds]

def millis? (w : Words) : Option (BitVec 128) := do
  let whole ← Word.mul? (w.seconds.setWidth 128) 1000
  Word.add? whole ((w.nanos / 1000000).setWidth 128)

/-- The span of so many milliseconds, unless the nanoseconds reach a second. -/
def ofMillis? (ms : BitVec 64) : Option Words := do
  let nanos ← Word.mul? ((ms % 1000).setWidth 32) 1000000
  if h : nanos.toNat < 10 ^ 9 then some ⟨ms / 1000, nanos, h⟩ else none

theorem exists_millis? (w : Words) :
    ∃ n, w.millis? = some n ∧ n.toNat = w.span.length / 10 ^ 6 := by
  have hseconds := w.seconds.isLt
  have hnanos := w.nanos_lt
  have hwide : (w.seconds.setWidth 128).toNat = w.seconds.toNat :=
    Word.toNat_setWidth_of_lt rfl (by omega)
  have hpart : ((w.nanos / 1000000).setWidth 128).toNat = w.nanos.toNat / 1000000 :=
    Word.toNat_setWidth_of_lt BitVec.toNat_udiv (by omega)
  obtain ⟨whole, hwhole, hwholeNat⟩ :=
    Word.exists_mul? hwide (b := 1000) (y := 1000) rfl (by omega)
  obtain ⟨n, hn, hnNat⟩ := Word.exists_add? hwholeNat hpart (by omega)
  refine ⟨n, ?_, ?_⟩
  · rw [millis?, hwhole]
    exact hn
  · rw [hnNat, length, span]
    dsimp only
    omega

theorem exists_ofMillis? (ms : BitVec 64) :
    ∃ w, ofMillis? ms = some w ∧ w.span = ofMillis ms.toNat := by
  have hrest : ((ms % 1000).setWidth 32).toNat = ms.toNat % 1000 :=
    Word.toNat_setWidth_of_lt BitVec.toNat_umod (by omega)
  obtain ⟨nanos, hnanos, hnanosNat⟩ :=
    Word.exists_mul? hrest (b := 1000000) (y := 1000000) rfl (by omega)
  have hlt : nanos.toNat < 10 ^ 9 := by omega
  refine ⟨⟨ms / 1000, nanos, hlt⟩, ?_, ?_⟩
  · rw [ofMillis?, hnanos]
    exact dif_pos hlt
  · rw [span, hnanosNat, BitVec.toNat_udiv]
    rfl

end Words

end Span

/-! ## Configurations -/

namespace Config

theorem interval_withInterval (c : Config) (s : Span) :
    (c.withInterval s).interval = .ofMillis s.toMillis :=
  rfl

theorem length_interval (c : Config) (s : Span) :
    (c.withInterval s).interval.length = min (s.length / 10 ^ 6) (2 ^ 64 - 1) * 10 ^ 6 := by
  rw [interval_withInterval, Span.length_ofMillis, Span.toMillis_eq]

theorem nanos_interval (c : Config) : c.interval.nanos < 10 ^ 9 :=
  Span.nanos_ofMillis _

/-- What a configuration makes of a span that is set as its time between two looks. -/
structure Rounds (c : Config) (d : Span.Words) : Prop where
  whole : d.span.length / 10 ^ 6 < 2 ^ 64 →
    (c.withInterval d.span).interval.length = d.span.length / 10 ^ 6 * 10 ^ 6
  longest : 2 ^ 64 ≤ d.span.length / 10 ^ 6 →
    (c.withInterval d.span).interval.length = (2 ^ 64 - 1) * 10 ^ 6
  le : (c.withInterval d.span).interval ≤ d.span
  again : (c.withInterval d.span).withInterval (c.withInterval d.span).interval =
    c.withInterval d.span
  mono : ∀ e : Span.Words, d.span ≤ e.span →
    (c.withInterval d.span).interval ≤ (c.withInterval e.span).interval
  /-- In words no step is without a result: there are the milliseconds of the span, of which as many
  as 64 bits hold are the setting, and there is the span of these, which is the one read back. -/
  fits : ∃ ms w, d.millis? = some ms ∧
    (Word.clamp64 ms).toNat = (c.withInterval d.span).pollInterval ∧
    Span.Words.ofMillis? (Word.clamp64 ms) = some w ∧ w.span = (c.withInterval d.span).interval

/-- Every configuration rounds every span that words hold. -/
theorem withInterval_rounds (c : Config) (d : Span.Words) : c.Rounds d where
  whole h := by
    rw [length_interval, Nat.min_eq_left (by omega)]
  longest h := by
    rw [length_interval, Nat.min_eq_right (by omega)]
  le := by
    rw [Span.le_iff_length_le (nanos_interval _) d.nanos_lt, length_interval]
    omega
  again := by
    have hkept : (Span.ofMillis d.span.toMillis).toMillis = d.span.toMillis :=
      Span.toMillis_ofMillis d.span.toMillis_lt
    rw [interval_withInterval, withInterval, hkept]
    rfl
  mono e h := by
    rw [Span.le_iff_length_le d.nanos_lt e.nanos_lt] at h
    rw [Span.le_iff_length_le (nanos_interval _) (nanos_interval _), length_interval,
      length_interval]
    have := Nat.div_le_div_right (c := 10 ^ 6) h
    omega
  fits := by
    obtain ⟨ms, hms, hmsNat⟩ := d.exists_millis?
    obtain ⟨w, hw, hspan⟩ := Span.Words.exists_ofMillis? (Word.clamp64 ms)
    have hkept : (Word.clamp64 ms).toNat = d.span.toMillis := by
      rw [Word.toNat_clamp64, hmsNat, Span.toMillis_eq]
    refine ⟨ms, w, hms, hkept, hw, ?_⟩
    rw [hspan, hkept, interval_withInterval]

/-- The longest span that words hold has too many milliseconds. -/
example : (Config.standard.withInterval ⟨2 ^ 64 - 1, 999999999⟩).interval =
    ⟨18446744073709551, 615000000⟩ := by
  decide

end Config

end StagedTests
