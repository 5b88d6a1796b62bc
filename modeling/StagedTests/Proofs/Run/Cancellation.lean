import StagedTests.Proofs.Run.Deletion
import StagedTests.Proofs.Run.Halt
import StagedTests.Proofs.Run.Test

/-!
# A cancelled test

Behind the cancellation of its token a test still enters the phases that it has to enter. Their pods
are not run: each run ends at once with the reason of the cancellation. Each phase with pods that is
open or entered then has the pods of the test deleted once.
-/

namespace StagedTests

variable {σ : Type}

open StagedTests.Task (Keeps Leads)

/-! ## The errors of the runs of pods -/

def Entry.failure? : Entry → Option ExecutionError
  | .finished _ result => errorOf? result
  | _ => none

namespace Synthesizer

variable (s : Synthesizer) {d : Definition} {pre test post : List Attempt}

end Synthesizer

namespace StagedTest

variable (t : StagedTest) (env : Surroundings σ) (params : Parameters σ)

variable (w : World σ) (profile : Option ProfileSetting)

/-- A run from `w` enters a phase in this world. -/
inductive Enters : Phase → World σ → Prop
  | pre {v : World σ} (h : t.prepare env params w = (.returned (.ok profile), v)) : Enters .pre v
  | test {v v' : World σ} {report : PhaseReport} (h : Enters .pre v)
    (hpre : t.runPhase env profile .pre v = (.returned report, v')) (hok : report.errors = []) :
    Enters .test v'
  | skip {v v' : World σ} {report : PhaseReport} (h : Enters .pre v)
    (hpre : t.runPhase env profile .pre v = (.returned report, v')) (hok : report.errors ≠ []) :
    Enters .post v'
  | post {v v' : World σ} {report : PhaseReport} (h : Enters .test v)
    (htest : t.runPhase env profile .test v = (.returned report, v')) : Enters .post v'

section

variable {t env params w profile} {phase : Phase} {v : World σ}

theorem Enters.behind (h : t.Enters env params w profile phase v) : w.Behind v := by
  induction h with
  | pre h => exact (t.prepare_behind env params w).returned (.self w) h
  | test _ hphase _ ih | skip _ hphase _ ih | post _ hphase ih =>
    exact (t.runPhase_behind env profile _ w).returned ih hphase

theorem Enters.watchers (h : t.Enters env params w profile phase v) (hdry : t.dry = false)
    (hw : w.watchers = []) : v.watchers = [] := by
  induction h with
  | pre h => exact (t.prepare_watchers env params).returned hw h
  | test _ hphase _ ih | skip _ hphase _ ih | post _ hphase ih =>
    exact t.runPhase_watchers env profile _ hdry _ _ _ ih hphase

end

end StagedTest

namespace Rehearsal

end Rehearsal

namespace StagedTest

variable (t : StagedTest) (env : Surroundings σ) (params : Parameters σ)

end StagedTest

end StagedTests
