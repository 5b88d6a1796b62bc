import StagedTests.Proofs.Document
import StagedTests.Proofs.Pod.Synthesis

/-!
# The job in the annotations of a pod

Every pod carries the description of the job that it is made for as one line of text. A job is
described by texts alone, each of which can be written whatever its characters are, so no pod goes
without. The line reads back as the job, but for the owner, who is no part of the description; so
two lines are the same only where the jobs are, the owners apart.
-/

namespace StagedTests

def Pod.annotation? (p : Pod) (name : String) : Option String :=
  p.metadata.annotations.bind (·.get? name)

namespace Job

theorem ownerless_eq_iff {j k : Job} :
    { j with owner := none } = { k with owner := none } ↔
      j.inNamespace = k.inNamespace ∧ j.name = k.name ∧ j.buildId = k.buildId ∧
        j.prowJobId = k.prowJobId := by
  simp

/-- A line is read as the job that it describes, without an owner. -/
theorem decodeText_line (j : Job) :
    Json.decodeText decoder j.line = .ok { j with owner := none } := by
  have hreads : decoder.Reads j.toJson { j with owner := none } :=
    toJson_reads (j := { j with owner := none }) rfl
  exact Json.decodeText_compact hreads j.toJson_isWhole

theorem line_eq_iff {j k : Job} :
    j.line = k.line ↔ j.inNamespace = k.inNamespace ∧ j.name = k.name ∧ j.buildId = k.buildId ∧
      j.prowJobId = k.prowJobId := by
  rw [← ownerless_eq_iff]
  constructor
  · intro h
    have hk := k.decodeText_line
    rw [← h, j.decodeText_line] at hk
    exact Except.ok.inj hk
  · intro h
    -- The line does not tell the owner.
    change line { j with owner := none } = line { k with owner := none }
    rw [h]

end Job

namespace Synthesizer

variable (s : Synthesizer)

theorem generatePod_line {step : Step} {p : StepPod} (h : s.generatePod step = .ok p) :
    p.pod.annotation? jobAnnotation = some s.job.line := by
  rw [Pod.annotation?, s.generatePod_metadata h]
  exact Table.get?_insert_self ∅ jobAnnotation s.job.line

/-- What the annotation of a pod tells of the job that the pod is made for. -/
structure Describes (j : Job) (p : StepPod) : Prop where
  readable : ∃ line, p.pod.annotation? jobAnnotation = some line ∧
    Json.decodeText Job.decoder line = .ok { j with owner := none }
  /-- The pods of another job, whatever the test and the step, have the same annotation exactly if
  that job has the same four texts. -/
  same_iff : ∀ (s : Synthesizer) (step : Step) (q : StepPod), s.generatePod step = .ok q →
    (q.pod.annotation? jobAnnotation = p.pod.annotation? jobAnnotation ↔
      s.job.inNamespace = j.inNamespace ∧ s.job.name = j.name ∧ s.job.buildId = j.buildId ∧
        s.job.prowJobId = j.prowJobId)

/-- Every pod that is made describes its job. -/
theorem generatePod_describes {step : Step} {p : StepPod} (h : s.generatePod step = .ok p) :
    Describes s.job p where
  readable := ⟨s.job.line, s.generatePod_line h, s.job.decodeText_line⟩
  same_iff s' step' q hq := by
    rw [s.generatePod_line h, s'.generatePod_line hq, Option.some_inj, Job.line_eq_iff]

end Synthesizer

namespace Rehearsal

def escapedJob : Job where
  inNamespace := "ci \"op\""
  name := "back\\slash\n"
  buildId := "\x01\x7f"
  prowJobId := "é𝄞"
  owner := some ⟨"v1", "ConfigMap", "run", "7", none, none⟩

/-- A job whose name has the same characters when it is written, but for one backslash. -/
def bareJob : Job := { escapedJob with name := "back\\slashn" }

def synthesizerFor (j : Job) : Synthesizer := ⟨"e2e", .standard, j, none⟩

def trueStep : Step := .ofCommands "run" "src" "true"

theorem exists_trueStepPod (j : Job) : ∃ p, (synthesizerFor j).generatePod trueStep = .ok p :=
  ⟨_, rfl⟩

end Rehearsal

open Rehearsal in
theorem Synthesizer.generatePod_describes_escaped : ∃ p q,
    (synthesizerFor escapedJob).generatePod trueStep = .ok p ∧
      (synthesizerFor bareJob).generatePod trueStep = .ok q ∧
      (∃ line, p.pod.annotation? jobAnnotation = some line ∧
        Json.decodeText Job.decoder line = .ok { escapedJob with owner := none }) ∧
      q.pod.annotation? jobAnnotation ≠ p.pod.annotation? jobAnnotation := by
  obtain ⟨p, hp⟩ := exists_trueStepPod escapedJob
  obtain ⟨q, hq⟩ := exists_trueStepPod bareJob
  have hdescribes := (synthesizerFor escapedJob).generatePod_describes hp
  refine ⟨p, q, hp, hq, hdescribes.readable, fun heq => ?_⟩
  obtain ⟨-, hname, -⟩ := (hdescribes.same_iff _ _ q hq).mp heq
  exact absurd hname (by decide)

end StagedTests
