import StagedTests.Container.Tracker
import StagedTests.Proofs.Container.Event

/-!
# What a tracker reports

A tracker knows which containers it has reported to have started and to have ended. The events of
all looks at a pod, one after the other, are ordered.
-/

namespace StagedTests

namespace Tracker

/-- The events are all that the tracker has reported. -/
structure Reported (events : List ContainerEvent) (t : Tracker) : Prop where
  started_iff : ∀ c, c ∈ t.started ↔ StartedIn events c
  terminated_iff : ∀ c, c ∈ t.terminated ↔ EndedIn events c
  ordered : Ordered events

namespace Reported

variable {events : List ContainerEvent} {t : Tracker}

theorem fresh : Reported [] fresh where
  started_iff := by simp [Tracker.fresh, StartedIn]
  terminated_iff := by simp [Tracker.fresh, EndedIn]
  ordered := .nil

theorem start (h : Reported events t) (pod c : String) (startedAt : Option Instant) :
    Reported (events ++ (t.start pod c startedAt).2) (t.start pod c startedAt).1 ∧
      c ∈ (t.start pod c startedAt).1.started := by
  unfold Tracker.start
  split
  · rename_i hc
    rw [List.append_nil]
    exact ⟨h, by simpa using hc⟩
  · refine ⟨⟨fun d => ?_, fun d => ?_, h.ordered.concat fun he => nomatch he⟩, List.mem_cons_self⟩
    · rw [startedIn_append, startedIn_singleton, ← h.started_iff, List.mem_cons]
      simp [ContainerEvent.isTerminal, ContainerEvent.container, eq_comm, or_comm]
    · rw [endedIn_append, endedIn_singleton, ← h.terminated_iff]
      simp [ContainerEvent.isTerminal]

theorem finish (h : Reported events t) (pod : String) {c : String} (hc : c ∈ t.started)
    (e : Terminated) : Reported (events ++ (t.finish pod c e).2) (t.finish pod c e).1 := by
  unfold Tracker.finish
  split
  · rwa [List.append_nil]
  · refine ⟨fun d => ?_, fun d => ?_, h.ordered.concat fun _ => (h.started_iff c).mp hc⟩
    · rw [startedIn_append, startedIn_singleton, ← h.started_iff]
      simp [ContainerEvent.isTerminal]
    · rw [endedIn_append, endedIn_singleton, ← h.terminated_iff, List.mem_cons]
      simp [ContainerEvent.isTerminal, ContainerEvent.container, eq_comm, or_comm]

theorem observeRunning (h : Reported events t) (pod c : String) (state : Option Running) :
    Reported (events ++ (t.observeRunning pod c state).2) (t.observeRunning pod c state).1 := by
  cases state with
  | none => rwa [Tracker.observeRunning, List.append_nil]
  | some r => exact (h.start pod c r.startedAt).1

theorem observeTerminated (h : Reported events t) (pod c : String) (state : Option Terminated) :
    Reported (events ++ (t.observeTerminated pod c state).2)
      (t.observeTerminated pod c state).1 := by
  cases state with
  | none => rwa [Tracker.observeTerminated, List.append_nil]
  | some e =>
    obtain ⟨hstart, hc⟩ := h.start pod c e.startedAt
    rw [Tracker.observeTerminated, ← List.append_assoc]
    exact hstart.finish pod hc e

theorem observe (h : Reported events t) (pod : String) (s : ContainerStatus) :
    Reported (events ++ (t.observe pod s).2) (t.observe pod s).1 := by
  unfold Tracker.observe
  cases s.state with
  | none => rwa [List.append_nil]
  | some state =>
    rw [← List.append_assoc]
    exact (h.observeRunning pod s.name state.running).observeTerminated pod s.name state.terminated

theorem observeAll (h : Reported events t) (pod : String) (l : List ContainerStatus) :
    Reported (events ++ (t.observeAll pod l).2) (t.observeAll pod l).1 := by
  induction l generalizing t events with
  | nil => rwa [Tracker.observeAll, List.append_nil]
  | cons s rest ih =>
    rw [Tracker.observeAll, ← List.append_assoc]
    exact ih (h.observe pod s)

theorem diff (h : Reported events t) (name : String) (pod : Pod) :
    Reported (events ++ (t.diff name pod).2) (t.diff name pod).1 :=
  h.observeAll name pod.containerStatuses

end Reported

end Tracker

end StagedTests
