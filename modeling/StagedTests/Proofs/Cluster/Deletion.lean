import StagedTests.Cluster.Memory
import StagedTests.Proofs.Cluster.Selector
import StagedTests.Proofs.Pod.Synthesis

/-!
# Deletion by the selector of a test

The name of a test is written into the label of its pods and into the selector by which they are
deleted, and a cluster in memory reads the selector back. The two meet exactly where the name has no
comma and no white space at its ends; then the deletion takes the pods with the label and no others.
-/

namespace StagedTests

theorem Pod.label?_eq (p : Pod) (key : String) :
    p.label? key = (p.metadata.labels.getD ∅).get? key := by
  rw [Pod.label?]
  cases p.metadata.labels <;> rfl

/-- The pods of a test are gone from a store, and nothing else has changed there. -/
structure PodStore.Cleared (test : String) (before after : PodStore) : Prop where
  pods : ∀ name stored, after.pods.get? name = some stored ↔
    before.pods.get? name = some stored ∧ stored.pod.label? testLabel ≠ some test
  noted : after.collectionsDeleted = before.collectionsDeleted ++ [testSelector test]
  others : { after with pods := before.pods, collectionsDeleted := before.collectionsDeleted } =
    before

theorem PodStore.deleteCollection_cleared {test : String} (h : Selector.Expressible test)
    (s : PodStore) : s.Cleared test (deleteCollection (testSelector test) s).2 where
  pods name stored := by
    change (s.pods.filter _).get? name = some stored ↔ _
    rw [Table.get?_filter, Option.filter_eq_some_iff, Bool.not_eq_true', Bool.eq_false_iff,
      ne_eq, Selector.selects_testSelector h, Pod.label?_eq]
  noted := rfl
  others := rfl

/-- The selector of a test matches the pods that are made for it exactly if its name has no comma and
no white space at its ends, and deletes the pods that carry such a name and no others. -/
theorem Synthesizer.testSelector_settles (s : Synthesizer) :
    (Selector.Expressible s.test ↔ ',' ∉ s.test.toList ∧
      (∀ c ∈ s.test.toList.head?, Text.isBlank c = false) ∧
      ∀ c ∈ s.test.toList.getLast?, Text.isBlank c = false) ∧
    (∀ step p, s.generatePod step = .ok p →
      (Selector.selects (testSelector s.test) p.pod = true ↔ Selector.Expressible s.test)) ∧
    (Selector.Expressible s.test → ∀ store : PodStore,
      (PodStore.deleteCollection (testSelector s.test) store).1 = .ok () ∧
        store.Cleared s.test (PodStore.deleteCollection (testSelector s.test) store).2) := by
  refine ⟨Selector.expressible_iff, fun step p hp => ?_, fun hname store => ?_⟩
  · exact Selector.selects_iff_expressible (s.generatePod_label hp)
  · exact ⟨rfl, store.deleteCollection_cleared hname⟩

namespace Rehearsal

/-- A synthesizer of a test whose name has an equals sign and a blank within. -/
def equalsSynthesizer : Synthesizer :=
  ⟨"e2e=a b", .standard, ⟨"ci", "nightly", "", "", none⟩, none⟩

def partSynthesizer : Synthesizer := { equalsSynthesizer with test := "e2e" }

def bareStep : Step := .ofCommands "run" "src" "true"

theorem exists_equalsPod : ∃ p, equalsSynthesizer.generatePod bareStep = .ok p := ⟨_, rfl⟩

theorem exists_partPod : ∃ p, partSynthesizer.generatePod bareStep = .ok p := ⟨_, rfl⟩

end Rehearsal

open Rehearsal in
/-- The pod of a test is deleted, and that of another test whose name it begins with stays. -/
theorem Synthesizer.testSelector_settles_equals :
    let selector := testSelector equalsSynthesizer.test
    ∃ p q, equalsSynthesizer.generatePod bareStep = .ok p ∧
      partSynthesizer.generatePod bareStep = .ok q ∧ Selector.selects selector p.pod = true ∧
      ∀ (store : PodStore) (name : String) (polls : Nat),
        (PodStore.deleteCollection selector store).2.pods.get? name ≠ some ⟨p.pod, polls⟩ ∧
          (store.pods.get? name = some ⟨q.pod, polls⟩ →
            (PodStore.deleteCollection selector store).2.pods.get? name = some ⟨q.pod, polls⟩) := by
  intro selector
  obtain ⟨p, hp⟩ := exists_equalsPod
  obtain ⟨q, hq⟩ := exists_partPod
  obtain ⟨-, hselects, hdeletes⟩ := Synthesizer.testSelector_settles equalsSynthesizer
  have hname : Selector.Expressible equalsSynthesizer.test := by decide
  refine ⟨p, q, hp, hq, (hselects bareStep p hp).mpr hname, fun store name polls => ?_⟩
  obtain ⟨-, hcleared⟩ := hdeletes hname store
  rw [ne_eq, hcleared.pods, hcleared.pods, Pod.label?_eq, Pod.label?_eq,
    equalsSynthesizer.generatePod_label hp, partSynthesizer.generatePod_label hq]
  refine ⟨fun h => h.2 rfl, fun h => ⟨h, ?_⟩⟩
  decide

end StagedTests
