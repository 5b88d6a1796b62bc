import StagedTests.Proofs.Run.Secret
import StagedTests.Proofs.Run.Test

/-!
# Successive runs of a test

A test may be run any number of times. Each run prepares itself anew: whether it comes to its phases
depends on the answers that it gets, and a run that does not come to them returns why and no cases,
whatever an earlier one has recorded.
-/

namespace StagedTests

variable {σ : Type}

open StagedTests.Task (Keeps Leads Meets)

namespace StagedTest

variable (t : StagedTest) (env : Surroundings σ) (params : Parameters σ) (w₀ : World σ)

/-! ## Whole runs -/

/-- Runs of one test one after the other, each from where the last one has returned. Others may
change the cluster and the disk between them, and a run may be given another token. -/
inductive Reruns (env : Surroundings σ) (params : Parameters σ) (t₀ : StagedTest) (w₀ : World σ) :
    StagedTest → World σ → Prop
  | start : Reruns env params t₀ w₀ t₀ w₀
  | again {t t' : StagedTest} {w w' : World σ} {result : Except TestError Unit}
    (h : Reruns env params t₀ w₀ t w) (hrun : t.run env params w = (.returned (result, t'), w')) :
    Reruns env params t₀ w₀ t' w'
  | between {t : StagedTest} {w : World σ} (h : Reruns env params t₀ w₀ t w) (s : σ) (token : Token)
    (disk : Disk) :
    Reruns env params t₀ w₀ t { w with cluster := s, token := token, disk := disk }

variable {t params} in
/-- A run changes nothing of a test but its cases. -/
theorem run_test {w w' : World σ} {result : Except TestError Unit} {t' : StagedTest}
    (h : t.run env params w = (.returned (result, t'), w')) :
    t' = { t with subtests := t'.subtests } := by
  obtain ⟨⟨_, cases⟩, _, -, hdone⟩ := Task.bind_eq_returned h
  cases hdone
  rfl

variable {env params} in
theorem Reruns.same {t₀ : StagedTest} {w₀ : World σ} (hdry : t₀.dry = false)
    (hw₀ : w₀.watchers = []) {t : StagedTest} {w : World σ} (h : Reruns env params t₀ w₀ t w) :
    t = { t₀ with subtests := t.subtests } ∧ w.watchers = [] := by
  induction h with
  | start => exact ⟨rfl, hw₀⟩
  | again _ hrun ih =>
    obtain ⟨ht, hw⟩ := ih
    have hdry' := (congrArg StagedTest.dry ht).trans hdry
    refine ⟨?_, run_watchers _ env params hdry' _ _ _ hw hrun⟩
    rw [run_test env hrun, ht]
  | between _ s token disk ih => exact ih

end StagedTest

end StagedTests
