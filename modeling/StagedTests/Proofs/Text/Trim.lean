import StagedTests.Proofs.Text.Scan
import StagedTests.Text.Blank

/-!
# Trimmed texts

What is left of a text without the white space at its two ends is the only part of it that white
space surrounds and that has none at its own ends.
-/

namespace StagedTests.Text

def AreBlank (cs : List Char) : Prop := ∀ c ∈ cs, isBlank c = true

/-- The second text is the first without the white space at its two ends. -/
def IsTrimmed (s t : String) : Prop :=
  ∃ before behind, s.toList = before ++ t.toList ++ behind ∧ AreBlank before ∧ AreBlank behind ∧
    (∀ c ∈ t.toList.head?, isBlank c = false) ∧ ∀ c ∈ t.toList.getLast?, isBlank c = false

theorem trimList_append {before cs behind : List Char} (hbefore : AreBlank before)
    (hbehind : AreBlank behind) (hhead : ∀ c ∈ cs.head?, isBlank c = false)
    (hlast : ∀ c ∈ cs.getLast?, isBlank c = false) :
    trimList isBlank (before ++ cs ++ behind) = cs := by
  have hreverse : ∀ c ∈ behind.reverse, isBlank c = true :=
    fun c hc => hbehind c (List.mem_reverse.mp hc)
  cases cs with
  | nil =>
    have hall : ∀ c ∈ before ++ [] ++ behind, isBlank c = true := by
      intro c hc
      rw [List.append_nil] at hc
      exact (List.mem_append.mp hc).elim (hbefore c) (hbehind c)
    rw [trimList, List.dropWhile_eq_nil_iff.mpr hall]
    rfl
  | cons c cs =>
    have hfront : (before ++ (c :: cs) ++ behind).dropWhile isBlank = c :: cs ++ behind := by
      rw [List.append_assoc]
      exact dropWhile_append_stop hbefore hhead
    have hback : ∀ d ∈ (c :: cs).reverse.head?, isBlank d = false := by
      rwa [List.head?_reverse]
    rw [trimList, hfront, List.reverse_append, dropWhile_append_stop hreverse hback,
      List.reverse_reverse]

theorem isTrimmed_trim (s : String) : IsTrimmed s (trim s) := by
  have hcut : s.toList.takeWhile isBlank ++ s.toList.dropWhile isBlank = s.toList :=
    List.takeWhile_append_dropWhile
  have hhead := head_dropWhile isBlank s.toList
  generalize hfront : s.toList.dropWhile isBlank = front at hcut hhead
  have hback : front.reverse.takeWhile isBlank ++ front.reverse.dropWhile isBlank = front.reverse :=
    List.takeWhile_append_dropWhile
  have hlast := head_dropWhile isBlank front.reverse
  have htrim : (trim s).toList = (front.reverse.dropWhile isBlank).reverse := by
    rw [toList_trim, trimList, hfront]
  have hwhole : front = (trim s).toList ++ (front.reverse.takeWhile isBlank).reverse := by
    rw [htrim, ← List.reverse_append, hback, List.reverse_reverse]
  refine ⟨s.toList.takeWhile isBlank, (front.reverse.takeWhile isBlank).reverse, ?_, ?_, ?_, ?_, ?_⟩
  · rw [List.append_assoc, ← hwhole, hcut]
  · exact fun c hc => List.mem_takeWhile_imp hc
  · exact fun c hc => List.mem_takeWhile_imp (List.mem_reverse.mp hc)
  · intro c hc
    rw [hwhole, List.head?_append, Option.mem_def.mp hc] at hhead
    exact hhead c rfl
  · rw [htrim, List.getLast?_reverse]
    exact hlast

theorem IsTrimmed.trim_eq {s t : String} (h : IsTrimmed s t) : trim s = t := by
  obtain ⟨before, behind, hs, hbefore, hbehind, hhead, hlast⟩ := h
  rw [trim, hs, trimList_append hbefore hbehind hhead hlast, String.ofList_toList]

theorem trim_eq_iff {s t : String} : trim s = t ↔ IsTrimmed s t :=
  ⟨fun h => h ▸ isTrimmed_trim s, IsTrimmed.trim_eq⟩

@[simp] theorem trim_trim (s : String) : trim (trim s) = trim s := by
  obtain ⟨-, -, -, -, -, hhead, hlast⟩ := isTrimmed_trim s
  refine IsTrimmed.trim_eq ⟨[], [], by simp, ?_, ?_, hhead, hlast⟩
  · exact fun c hc => absurd hc List.not_mem_nil
  · exact fun c hc => absurd hc List.not_mem_nil

theorem trim_eq_self_iff {s : String} : trim s = s ↔
    (∀ c ∈ s.toList.head?, isBlank c = false) ∧ ∀ c ∈ s.toList.getLast?, isBlank c = false := by
  rw [trim_eq_iff]
  constructor
  · rintro ⟨-, -, -, -, -, hhead, hlast⟩
    exact ⟨hhead, hlast⟩
  · rintro ⟨hhead, hlast⟩
    refine ⟨[], [], by simp, ?_, ?_, hhead, hlast⟩
    · exact fun c hc => absurd hc List.not_mem_nil
    · exact fun c hc => absurd hc List.not_mem_nil

theorem trimList_sublist (drop : Char → Bool) (cs : List Char) :
    (trimList drop cs).Sublist cs := by
  have hback : ((cs.dropWhile drop).reverse.dropWhile drop).Sublist (cs.dropWhile drop).reverse :=
    List.dropWhile_sublist drop
  have hfront : ((cs.dropWhile drop).reverse.dropWhile drop).reverse.Sublist (cs.dropWhile drop) :=
    List.reverse_sublist.mp (by rwa [List.reverse_reverse])
  exact hfront.trans (List.dropWhile_sublist drop)

end StagedTests.Text
