import StagedTests.Cluster.Selector
import StagedTests.Pod.Synthesis
import StagedTests.Proofs.Text.Trim

/-!
# Selectors of tests

The selector of a test whose name it can express holds of the pods that carry the name in the test's
label, and of no others.
-/

namespace StagedTests

namespace Selector

theorem pieces_of_not_mem {separator : Char} {cs : List Char} (h : separator ∉ cs) :
    pieces separator cs = [cs] := by
  induction cs with
  | nil => rfl
  | cons c cs ih =>
    obtain ⟨hc, hcs⟩ := List.ne_and_not_mem_of_not_mem_cons h
    rw [pieces, if_neg hc.symm, ih hcs]

theorem cut?_append {separator : Char} {key : List Char} (h : separator ∉ key)
    (value : List Char) : cut? separator (key ++ separator :: value) = some (key, value) := by
  induction key with
  | nil => simp [cut?]
  | cons c key ih =>
    obtain ⟨hc, hkey⟩ := List.ne_and_not_mem_of_not_mem_cons h
    simp [cut?, hc.symm, ih hkey]

/-- A text that a selector can name as a value: it has no comma, and no blanks at its ends. -/
def Expressible (value : String) : Prop := ',' ∉ value.toList ∧ Text.trim value = value

instance (value : String) : Decidable (Expressible value) :=
  inferInstanceAs (Decidable (_ ∧ _))

theorem toList_testSelector (test : String) :
    (testSelector test).toList = testLabel.toList ++ '=' :: test.toList := by
  simp [testSelector, toString]

theorem selects_testSelector {test : String} (h : Expressible test) (pod : Pod) :
    selects (testSelector test) pod = true ↔
      (pod.metadata.labels.getD ∅).get? testLabel = some test := by
  obtain ⟨hcomma, htrim⟩ := h
  have hpieces : pieces ',' (testSelector test).toList = [(testSelector test).toList] := by
    refine pieces_of_not_mem ?_
    rw [toList_testSelector, List.mem_append, List.mem_cons]
    rintro (h | h | h)
    · exact absurd h (by decide)
    · exact absurd h (by decide)
    · exact hcomma h
  have hcut : cut? '=' (testSelector test).toList = some (testLabel.toList, test.toList) := by
    rw [toList_testSelector]
    exact cut?_append (by decide) _
  have hkey : trimmed testLabel.toList = testLabel := by decide
  have hvalue : trimmed test.toList = test := htrim
  rw [selects, hpieces, List.all_cons, List.all_nil, Bool.and_true, termHolds, hcut]
  dsimp only
  rw [hkey, hvalue, beq_iff_eq]

theorem head?_pieces (separator : Char) (cs : List Char) :
    (pieces separator cs).head? = some (cs.takeWhile (· ≠ separator)) := by
  induction cs with
  | nil => rfl
  | cons c cs ih =>
    rw [pieces]
    by_cases hc : c = separator
    · rw [if_pos hc, List.takeWhile_cons_of_neg (by simp [hc])]
      rfl
    · rw [if_neg hc, List.takeWhile_cons_of_pos (by simp [hc])]
      cases hpieces : pieces separator cs with
      | nil => rw [hpieces] at ih; cases ih
      | cons p ps =>
        rw [hpieces, List.head?_cons, Option.some_inj] at ih
        rw [ih]
        rfl

theorem expressible_iff {value : String} : Expressible value ↔ ',' ∉ value.toList ∧
    (∀ c ∈ value.toList.head?, Text.isBlank c = false) ∧
    ∀ c ∈ value.toList.getLast?, Text.isBlank c = false := by
  rw [Expressible, Text.trim_eq_self_iff]

/-- A pod that the selector of a test matches carries what stands in front of the first comma, as
the value of the test's label. -/
theorem label_of_selects {test : String} {pod : Pod} (h : selects (testSelector test) pod = true) :
    (pod.metadata.labels.getD ∅).get? testLabel =
      some (trimmed (test.toList.takeWhile (· ≠ ','))) := by
  have hcomma : ',' ∉ testLabel.toList := by decide
  have hfront : (testSelector test).toList.takeWhile (· ≠ ',') =
      testLabel.toList ++ '=' :: test.toList.takeWhile (· ≠ ',') := by
    rw [toList_testSelector, List.takeWhile_append_of_pos, List.takeWhile_cons_of_pos (by decide)]
    exact fun c hc => decide_eq_true (ne_of_mem_of_not_mem hc hcomma)
  have hterm : termHolds (pod.metadata.labels.getD ∅)
      (testLabel.toList ++ '=' :: test.toList.takeWhile (· ≠ ',')) = true := by
    rw [selects, List.all_eq_true] at h
    refine h _ (List.mem_of_mem_head? ?_)
    rw [head?_pieces, hfront]
    rfl
  have hkey : trimmed testLabel.toList = testLabel := by decide
  rw [termHolds, cut?_append (by decide)] at hterm
  dsimp only at hterm
  rwa [hkey, beq_iff_eq] at hterm

/-- The selector of a test matches a pod that carries its name exactly if it can express it. -/
theorem selects_iff_expressible {test : String} {pod : Pod}
    (hlabel : (pod.metadata.labels.getD ∅).get? testLabel = some test) :
    selects (testSelector test) pod = true ↔ Expressible test := by
  constructor
  · intro h
    have hread : trimmed (test.toList.takeWhile (· ≠ ',')) = test :=
      (Option.some_inj.mp (hlabel.symm.trans (label_of_selects h))).symm
    have hcomma : ',' ∉ test.toList := by
      intro hmem
      rw [← hread, trimmed, String.toList_ofList] at hmem
      have hfront := List.mem_takeWhile_imp ((Text.trimList_sublist _ _).subset hmem)
      simp at hfront
    have hwhole : test.toList.takeWhile (· ≠ ',') = test.toList := by
      rw [List.takeWhile_eq_self_iff]
      exact fun c hc => decide_eq_true (ne_of_mem_of_not_mem hc hcomma)
    rw [hwhole] at hread
    exact ⟨hcomma, hread⟩
  · exact fun h => (selects_testSelector h pod).mpr hlabel

end Selector

end StagedTests
