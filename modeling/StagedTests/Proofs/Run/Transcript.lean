import StagedTests.Proofs.Run.Projection

/-!
# Transcripts of runs

Surroundings may keep a transcript of a run: the moments at which they could act, and what they have
answered. This changes nothing about the run of a pod, so what is said of the runs with a transcript
is true of all runs.
-/

namespace StagedTests

variable {σ α : Type}

/-- A reply to a call on a single pod. -/
inductive Heard
  | deleted (name : String) (reply : Reply Unit)
  | found (name : String) (reply : Reply Pod)
  | created (pod : Pod) (reply : Reply Pod)

/-- What is seen of a run from outside. -/
inductive Sight
  /-- An observer was told of an event. -/
  | told (e : ContainerEvent)
  /-- An observer was cancelled. -/
  | stopped
  /-- Others could act. -/
  | moment (m : Moment)
  | heard (h : Heard)
  /-- A command was answered. -/
  | ran (pod container : String) (words : List String) (reply : Reply CommandOutput)

def Reply.isHanging : Reply α → Bool
  | .hangs => true
  | .answered _ => false

namespace Heard

def call : Heard → Call
  | .deleted name _ => .deletePod name
  | .found name _ => .getPod name
  | .created pod _ => .createPod pod

def isHanging : Heard → Bool
  | .deleted _ reply => reply.isHanging
  | .found _ reply => reply.isHanging
  | .created _ reply => reply.isHanging

end Heard

def repliesIn (sights : List Sight) : List Heard :=
  sights.filterMap fun
    | .heard h => some h
    | _ => none

def Sight.isHanging : Sight → Bool
  | .heard h => h.isHanging
  | .ran _ _ _ reply => reply.isHanging
  | _ => false

/-- An operation whose outcome is written down. -/
def writing (sight : α → Sight) (op : σ → α × σ) : σ × List Sight → α × (σ × List Sight) :=
  fun (s, sights) =>
    let (a, s) := op s
    (a, s, sights ++ [sight a])

theorem writing_eq (sight : α → Sight) {op : σ → α × σ} {w : σ × List Sight} {a : α} {s : σ}
    (h : op w.1 = (a, s)) : writing sight op w = (a, s, w.2 ++ [sight a]) := by
  simp only [writing, h]

def PodClient.traced (c : PodClient σ) : PodClient (σ × List Sight) where
  create pod := writing (fun reply => .heard (.created pod reply)) (c.create pod)
  get name := writing (fun reply => .heard (.found name reply)) (c.get name)
  delete name := writing (fun reply => .heard (.deleted name reply)) (c.delete name)
  deleteCollection selector := onFirst (c.deleteCollection selector)
  exec pod container words := writing (.ran pod container words) (c.exec pod container words)

def Happening.isStop : Happening → Bool
  | .cancelObserver => true
  | _ => false

def Pause.sights (m : Moment) (p : Pause) : List Sight :=
  .moment m :: if p.happenings.any Happening.isStop then [.stopped] else []

/-- The same surroundings with a transcript. -/
def Surroundings.traced (env : Surroundings σ) : Surroundings (σ × List Sight) where
  pods := env.pods.traced
  secrets := env.secrets.first
  clock := fun (s, _) => env.clock s
  meanwhile := fun m watchers (s, sights) =>
    let (p, s) := env.meanwhile m watchers s
    (p, s, sights ++ p.sights m)
  patience := env.patience

def World.traced (w : World σ) (sights : List Sight) : World (σ × List Sight) :=
  w.map fun s => (s, sights)

theorem Surroundings.traced_maps (env : Surroundings σ) : env.traced.Maps Prod.fst env where
  create := fun _ _ => rfl
  get := fun _ _ => rfl
  delete := fun _ _ => rfl
  deleteCollection := fun _ _ => rfl
  exec := fun _ _ _ _ => rfl
  clock := fun _ => rfl
  meanwhile := fun _ _ _ => rfl
  patience := rfl

theorem Runner.run_traced (r : Runner) (env : Surroundings σ) (p : StepPod) (w : World σ) :
    ∃ sights, r.run env.traced p (w.traced []) =
      ((r.run env p w).1, (r.run env p w).2.traced sights) := by
  have hrun : r.run env p w = _ := env.traced_maps.run r p (w.traced [])
  rw [hrun]
  exact ⟨(r.run env.traced p (w.traced [])).2.cluster.2, rfl⟩

/-! ## What is written down -/

theorem repliesIn_append (l m : List Sight) : repliesIn (l ++ m) = repliesIn l ++ repliesIn m :=
  List.filterMap_append

theorem repliesIn_sights (m : Moment) (p : Pause) : repliesIn (p.sights m) = [] := by
  unfold Pause.sights
  split <;> rfl

def World.Hanging (w : World (σ × List Sight)) : Prop := ∃ x ∈ w.cluster.2, x.isHanging = true

theorem World.hanging_of_heard {w : World (σ × List Sight)} {h : Heard}
    (hmem : h ∈ repliesIn w.cluster.2) (hh : h.isHanging = true) : w.Hanging := by
  obtain ⟨x, hx, hxh⟩ := List.mem_filterMap.mp hmem
  refine ⟨x, hx, ?_⟩
  cases x with
  | heard h' =>
    cases hxh
    exact hh
  | told _ | stopped | moment _ | ran _ _ _ _ => cases hxh

section

variable {env : Surroundings σ}

theorem Surroundings.sights_react (w : World (σ × List Sight)) (r : Reaction) :
    (env.traced.react w r).1.cluster.2 = w.cluster.2 := by
  cases r with
  | cancelObserver => rfl
  | deletePods selector =>
    refine env.traced.react_deletePods (J := fun v => v.cluster.2 = w.cluster.2) w selector ?_
      fun _ _ hv => ?_
    · rw [World.cluster_answer]
      rfl
    · exact hv

theorem Surroundings.sights_happen (w : World (σ × List Sight)) (x : Happening) :
    (env.traced.happen w x).cluster.2 = w.cluster.2 := by
  cases x with
  | cancel reason =>
    simp only [Surroundings.happen, World.cancel]
    split <;> rfl
  | cancelObserver => rfl
  | turn i =>
    exact env.traced.turn_keeps (J := fun v : World (σ × List Sight) => v.cluster.2 = w.cluster.2)
      i rfl (env.sights_react w) fun _ _ hv => hv

/-- What is known of the transcript is kept by others, if they keep it when they write. -/
theorem keptAtPauses_sights {S : List Sight → Prop}
    (hS : ∀ m p sights, S sights → S (sights ++ Pause.sights m p)) :
    KeptAtPauses env.traced fun w => S w.cluster.2 where
  meanwhile := fun m w hw => hS m (env.meanwhile m w.watchers.length w.cluster.1).1 w.cluster.2 hw
  happen := fun x w hw => by rwa [env.sights_happen w x]

variable (env) in
theorem keptAtPauses_hanging : KeptAtPauses env.traced (World.Hanging (σ := σ)) :=
  keptAtPauses_sights (S := fun sights => ∃ x ∈ sights, x.isHanging = true)
    fun _ _ _ ⟨x, hx, hh⟩ => ⟨x, List.mem_append_left _ hx, hh⟩

end

end StagedTests
