import StagedTests.Proofs.Pod.Synthesis
import StagedTests.Proofs.Run.Journal
import StagedTests.Run.Test

/-!
# Attempts

An attempt is one run of a pod with what came of it. The journal marks where each attempt begins and
ends, so it shows which pods were run, in which order, and that no two runs overlap. The main result
says which attempts a staged test makes.
-/

namespace StagedTests

variable {σ : Type}

/-- One run of a pod. -/
structure Attempt where
  pod : StepPod
  result : Except ExecutionError Unit

def Entry.isMark : Entry → Bool
  | .began _ | .finished _ _ => true
  | _ => false

def World.marks (w : World σ) : List Entry := w.shown Entry.isMark

theorem World.marks_note (w : World σ) (e : Entry) :
    (w.note e).marks = w.marks ++ if e.isMark then [e] else [] := w.shown_note Entry.isMark e

theorem Entry.isMark_of_isPassing (e : Entry) (h : e.isPassing = true) : e.isMark = false := by
  cases e <;> first | rfl | cases h

theorem World.marks_answer {α : Type} (w : World σ) (c : Call) (op : σ → Reply α × σ) :
    (w.answer c op).2.marks = w.marks := w.shown_answer Entry.isMark_of_isPassing c op

theorem keptByRuns_marks (env : Surroundings σ) (marks : List Entry) :
    KeptByRuns env Call.Any fun w => w.marks = marks :=
  keptByRuns_shown env Entry.isMark_of_isPassing (fun _ => rfl) marks

namespace Attempt

def marks (a : Attempt) : List Entry := [.began a.pod, .finished a.pod a.result]

def failures (as : List Attempt) : List ExecutionError := as.filterMap fun a => errorOf? a.result

theorem failures_eq_nil_iff (as : List Attempt) :
    failures as = [] ↔ ∀ a ∈ as, a.result = .ok () := by
  rw [failures, List.filterMap_eq_nil_iff]
  refine forall₂_congr fun a _ => ?_
  cases a.result <;> simp [errorOf?]

/-- From `w` to `w'` the attempts were made one after the other. Where this did not come to its end
the first ones were, and the last of these need not have ended. -/
def Made (as : List Attempt) (w w' : World σ) (ended : Bool) : Prop :=
  ∃ marks, w'.marks = w.marks ++ marks ∧ marks <+: as.flatMap Attempt.marks ∧
    (ended = true → marks = as.flatMap Attempt.marks)

theorem made_of_marks {as : List Attempt} {w w' : World σ} (ended : Bool)
    (h : w'.marks = w.marks ++ as.flatMap marks) : Made as w w' ended :=
  ⟨_, h, List.prefix_rfl, fun _ => rfl⟩

theorem Made.append {as bs : List Attempt} {w w₁ w' : World σ} {ended : Bool}
    (ha : Made as w w₁ true) (hb : Made bs w₁ w' ended) : Made (as ++ bs) w w' ended := by
  obtain ⟨ma, hma, -, ha⟩ := ha
  obtain ⟨mb, hmb, hpre, hb⟩ := hb
  obtain rfl := ha rfl
  refine ⟨as.flatMap marks ++ mb, ?_, ?_, fun he => ?_⟩
  · rw [hmb, hma, List.append_assoc]
  · rw [List.flatMap_append]
    exact (List.prefix_append_right_inj _).mpr hpre
  · rw [hb he, List.flatMap_append]

/-- Attempts that were broken off are the first ones of any that they could have gone on with. -/
theorem Made.extend {as : List Attempt} {w w' : World σ} (h : Made as w w' false)
    (bs : List Attempt) : Made (as ++ bs) w w' false := by
  obtain ⟨m, hm, hpre, -⟩ := h
  refine ⟨m, hm, hpre.trans ?_, fun he => absurd he (by decide)⟩
  rw [List.flatMap_append]
  exact List.prefix_append _ _

theorem Made.of_eq {as : List Attempt} {w₀ w w' w'' : World σ} {ended : Bool}
    (h : Made as w w' ended) (hw : w₀.marks = w.marks) (hw' : w''.marks = w'.marks) :
    Made as w₀ w'' ended := by
  obtain ⟨m, hm, h⟩ := h
  exact ⟨m, by rw [hw', hm, hw], h⟩

end Attempt

namespace Task

variable {α β : Type}

/-- From `w` on, the journal shows attempts of which `S` holds, together with what was returned. If
nothing was returned, `S` holds of attempts with which it could have gone on. -/
def Shows (t : Task σ α) (w : World σ) (S : List Attempt → Option α → Prop) : Prop :=
  ∃ as, S as (t w).1.value? ∧ Attempt.Made as w (t w).2 (t w).1.isReturned

namespace Shows

variable {t : Task σ α} {w : World σ} {S : List Attempt → Option α → Prop}

theorem returned {a : α} {w' : World σ} (as : List Attempt) (h : t w = (.returned a, w'))
    (hS : S as (some a)) (hm : Attempt.Made as w w' true) : t.Shows w S := by
  refine ⟨as, ?_, ?_⟩
  · rw [h]; exact hS
  · rw [h]; exact hm

theorem done {a : α} (h : S [] (some a)) : (pure a : Task σ α).Shows w S :=
  returned [] rfl h (Attempt.made_of_marks _ (List.append_nil _).symm)

theorem bind {f : α → Task σ β} {T : List Attempt → Option β → Prop} (ht : t.Shows w S)
    (hf : ∀ as a w₁, t w = (.returned a, w₁) → S as (some a) →
      (f a).Shows w₁ fun bs b => T (as ++ bs) b)
    (hstop : ∀ as, (∀ a w₁, t w ≠ (.returned a, w₁)) → S as none → ∃ bs, T (as ++ bs) none) :
    (t >>= f).Shows w T := by
  obtain ⟨as, hS, hm⟩ := ht
  rcases h : t w with ⟨o, w₁⟩
  rw [h] at hS hm
  cases o with
  | returned a =>
    obtain ⟨bs, hT, hm'⟩ := hf as a w₁ h hS
    refine ⟨as ++ bs, ?_, ?_⟩
    · rw [bind_of_returned f h]; exact hT
    · rw [bind_of_returned f h]; exact hm.append hm'
  | dropped | abandoned | stalled =>
    obtain ⟨bs, hT⟩ := hstop as (fun a w₁ => by rw [h]; simp) hS
    have hr : (t w).1.isReturned = false := by rw [h]; rfl
    obtain ⟨hr', hw'⟩ := bind_of_not_returned f hr
    refine ⟨as ++ bs, ?_, ?_⟩
    · rw [Outcome.value?_of_not_returned hr']; exact hT
    · rw [hr', hw', h]; exact hm.extend bs

theorem quiet {t : Task σ α} {f : α → Task σ β} {T : List Attempt → Option β → Prop}
    (ht : Keeps (fun w' => w'.marks = w.marks) t)
    (hf : ∀ a w₁, t w = (.returned a, w₁) → (f a).Shows w₁ T) (hstop : ∃ as, T as none) :
    (t >>= f).Shows w T := by
  have hm : Attempt.Made [] w (t w).2 (t w).1.isReturned :=
    Attempt.made_of_marks _ (by rw [ht w rfl]; exact (List.append_nil _).symm)
  refine bind (S := fun as _ => as = []) ⟨[], rfl, hm⟩ ?_ ?_
  · rintro _ a w₁ h rfl
    exact hf a w₁ h
  · rintro _ - rfl
    exact hstop

theorem weaken {T : List Attempt → Option α → Prop} (ht : t.Shows w S)
    (h : ∀ as o, S as o → T as o) : t.Shows w T := by
  obtain ⟨as, hS, hm⟩ := ht
  exact ⟨as, h as _ hS, hm⟩

end Shows

end Task

/-! ## Which attempts are made -/

/-- The attempts reach up to and including the first failure, or the last pod if none failed. -/
def UpToFailure (pods : List StepPod) (as : List Attempt) : Prop :=
  (as.map (·.pod) = pods ∧ ∀ a ∈ as, a.result = .ok ()) ∨
    ∃ passed failed rest, as = passed ++ [failed] ∧ (∀ a ∈ passed, a.result = .ok ()) ∧
      failed.result ≠ .ok () ∧ pods = as.map (·.pod) ++ rest

def Policy.Reaches : Policy → List StepPod → List Attempt → Prop
  | .shortCircuit, pods, as => UpToFailure pods as
  | .runAll, pods, as => as.map (·.pod) = pods

/-- What a phase attempts: nothing if a step has no pod. -/
def Synthesizer.Attempts (s : Synthesizer) (policy : Policy) (steps : List Step)
    (as : List Attempt) : Prop :=
  (as = [] ∧ ∃ step ∈ steps, ∃ e, s.generatePod step = .error e) ∨
    ∃ pods, s.Makes steps pods ∧ policy.Reaches pods as

def Synthesizer.Passes (s : Synthesizer) (steps : List Step) (as : List Attempt) : Prop :=
  List.Forall₂ (fun step a => s.generatePod step = .ok a.pod ∧ a.result = .ok ()) steps as

/-! ## What comes of one attempt -/

namespace Runner

open StagedTests.Task (Leads)

variable (r : Runner) (env : Surroundings σ) (p : StepPod)

/-- The result is no error, or one that names the test, the step and the pod. -/
def Names (result : Except ExecutionError Unit) : Prop :=
  ∀ e, result = .error e → ∃ fault, e = r.error p fault

theorem names_ok : r.Names p (.ok ()) := fun _ h => nomatch h

theorem names_error (fault : ExecutionFault) : r.Names p (.error (r.error p fault)) := by
  rintro e ⟨⟩
  exact ⟨fault, rfl⟩

variable {P : World σ → Prop}

theorem cancelled_names : Leads P (r.cancelled p) fun result _ => r.Names p result :=
  .bind .any fun _ => .done fun _ _ => r.names_error p _

theorem watch_names (n : Nat) (t : Tracker) :
    Leads P (r.watch env p n t) fun result _ => r.Names p result := by
  induction n generalizing t P with
  | zero => exact .stall
  | succ n ih =>
    refine .bind .any fun answer => ?_
    match answer with
    | none => exact r.cancelled_names p
    | some (.error e) => exact .done fun _ _ => r.names_error p _
    | some (.ok pod) =>
      refine .bind .any fun delivered => ?_
      cases delivered with
      | false => exact r.cancelled_names p
      | true =>
        simp only [if_true]
        split
        · exact .done fun _ _ => r.names_ok p
        · exact .done fun _ _ => r.names_error p _
        · refine .bind .any fun slept => ?_
          cases slept with
          | none => exact r.cancelled_names p
          | some _ => exact ih _

theorem run_names : Leads P (r.run env p) fun result _ => r.Names p result := by
  unfold run
  split
  · exact .bind .any fun _ => .done fun _ _ => r.names_ok p
  · refine .bind .any fun cancelled => ?_
    cases cancelled with
    | true => exact r.cancelled_names p
    | false =>
      refine .bind .any fun created => ?_
      cases created with
      | error e => exact .done fun _ _ => r.names_error p _
      | ok _ =>
        refine .bind .any fun _ => .bind (r.watch_names env p _ _) fun result => ?_
        exact .bind .frame fun _ => .bind .frame fun _ => .done fun _ h => h

variable (policy : Policy) (text : String)

theorem attempt_shows (w : World σ) : (r.attempt env text p).Shows w fun as o =>
    ∃ result, as = [⟨p, result⟩] ∧ r.Names p result ∧ ∀ x, o = some x → x.1 = result := by
  let began : World σ := { w with observer := r.observerFor p }.note (.began p)
  have hbegan : began.marks = w.marks ++ [.began p] := World.marks_note _ _
  have hrun := (keptByRuns_marks env began.marks).run r p.within_any began rfl
  rcases h : r.run env p began with ⟨o, w₁⟩
  rw [h] at hrun
  cases o with
  | returned result =>
    have hattempt : r.attempt env text p w =
        (.returned (result, w₁.observer.record.subtests text), w₁.note (.finished p result)) :=
      (Task.bind_of_returned _ (show _ = (_, began) from rfl)).trans (Task.bind_of_returned _ h)
    refine .returned [⟨p, result⟩] hattempt ⟨result, rfl, ?_, ?_⟩ ?_
    · exact r.run_names env p (P := fun _ => True) _ _ _ trivial h
    · rintro _ ⟨⟩; rfl
    · refine Attempt.made_of_marks _ ?_
      rw [World.marks_note, hrun, hbegan]
      simp [Entry.isMark, Attempt.marks]
  | dropped | abandoned | stalled =>
    have hnot : (r.run env p began).1.isReturned = false := by rw [h]; rfl
    have hattempt : (r.attempt env text p w).1.isReturned = false ∧
        (r.attempt env text p w).2 = (r.run env p began).2 := Task.bind_of_not_returned _ hnot
    refine ⟨[⟨p, .ok ()⟩], ⟨.ok (), rfl, r.names_ok p, ?_⟩, [.began p], ?_,
      ⟨[.finished p (.ok ())], rfl⟩, ?_⟩
    · rw [Outcome.value?_of_not_returned hattempt.1]
      exact fun _ hx => nomatch hx
    · rw [hattempt.2, h, hrun, hbegan]
    · rw [hattempt.1]
      exact fun hf => nomatch hf

end Runner

end StagedTests
