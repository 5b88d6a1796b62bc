import Mathlib.Data.List.Nodup
import Mathlib.Logic.Function.Basic
import StagedTests.Parameter.Answers
import StagedTests.Proofs.Parameter.Slot

/-!
# A parameter asked for by many

Tasks that share deferred parameters ask for one of them all at once. Asking takes several steps: a
look at what is set, a look at what is kept, taking the provider, calling it, and keeping what it
gave. Others may act between any two of these, and whoever has found nothing kept goes on to the
provider without another look. So the provider gives a value to each task that looked before
anything was kept, and these values may differ.
-/

namespace StagedTests.DeferredParameters

inductive Sharing.Stage (σ : Type)
  | idle
  /-- Before the look at what is set. -/
  | asking
  /-- Nothing is set. -/
  | unset
  /-- Nothing was kept either. -/
  | missed
  /-- With the provider in hand. -/
  | holding (f : Provider σ)
  /-- The provider has given a value, which is not kept yet. -/
  | given (value : String)
  /-- Nothing is left but to return. -/
  | leaving (result : Except ParameterError String)

/-- Shared parameters, the state of the providers, and where the tasks stand. -/
structure Sharing (σ : Type) where
  params : DeferredParameters σ
  world : σ
  stage : Nat → Sharing.Stage σ

namespace Sharing

variable {σ : Type}

def move (s : Sharing σ) (i : Nat) (stage : Stage σ) : Sharing σ :=
  { s with stage := Function.update s.stage i stage }

def advance (s : Sharing σ) (world : σ) : Sharing σ := { s with world := world }

def keep (s : Sharing σ) (name value : String) : Sharing σ :=
  { s with params := { s.params with resolved := s.params.resolved.insert name value } }

inductive Act
  | call (i : Nat)
  | look (i : Nat) (value : Option String)
  | peek (i : Nat) (kept : Option String)
  | fetch (i : Nat) (found : Bool)
  | answer (i : Nat) (answer : Except String String)
  | keep (i : Nat) (value : String)
  | returned (i : Nat) (result : Except ParameterError String)
  /-- Something that has no part in this parameter. -/
  | other
  deriving DecidableEq

/-- One step of one task that asks for the parameter of a name, or of anyone who does not. -/
inductive Step (name : String) (s : Sharing σ) : Act → Sharing σ → Prop
  | call {i : Nat} (at_ : s.stage i = .idle) : Step name s (.call i) (s.move i .asking)
  | set {i : Nat} {value : String} (at_ : s.stage i = .asking)
      (found : s.params.values.get? name = some value) :
      Step name s (.look i (some value)) (s.move i (.leaving (.ok value)))
  | unset {i : Nat} (at_ : s.stage i = .asking) (missing : s.params.values.get? name = none) :
      Step name s (.look i none) (s.move i .unset)
  | hit {i : Nat} {value : String} (at_ : s.stage i = .unset)
      (found : s.params.resolved.get? name = some value) :
      Step name s (.peek i (some value)) (s.move i (.leaving (.ok value)))
  | miss {i : Nat} (at_ : s.stage i = .unset) (missing : s.params.resolved.get? name = none) :
      Step name s (.peek i none) (s.move i .missed)
  | fetch {i : Nat} {f : Provider σ} (at_ : s.stage i = .missed)
      (found : s.params.providers.get? name = some f) :
      Step name s (.fetch i true) (s.move i (.holding f))
  | unknown {i : Nat} (at_ : s.stage i = .missed)
      (missing : s.params.providers.get? name = none) :
      Step name s (.fetch i false) (s.move i (.leaving (.error (.unknown name))))
  | give {i : Nat} {f : Provider σ} {value : String} {after : σ} (at_ : s.stage i = .holding f)
      (answered : f s.world = (.ok value, after)) :
      Step name s (.answer i (.ok value)) ((s.advance after).move i (.given value))
  | refuse {i : Nat} {f : Provider σ} {reason : String} {after : σ}
      (at_ : s.stage i = .holding f) (answered : f s.world = (.error reason, after)) :
      Step name s (.answer i (.error reason))
        ((s.advance after).move i (.leaving (.error (.failed name reason))))
  | keep {i : Nat} {value : String} (at_ : s.stage i = .given value) :
      Step name s (.keep i value) ((s.keep name value).move i (.leaving (.ok value)))
  | returned {i : Nat} {result : Except ParameterError String}
      (at_ : s.stage i = .leaving result) :
      Step name s (.returned i result) (s.move i .idle)
  /-- Other parameters may change, and so may the state of the providers. -/
  | other {params : DeferredParameters σ} (world : σ)
      (same : params.slot name = s.params.slot name) :
      Step name s .other ⟨params, world, s.stage⟩

inductive Run (name : String) (s : Sharing σ) : List Act → Sharing σ → Prop
  | refl : Run name s [] s
  | snoc {acts : List Act} {t u : Sharing σ} {a : Act} (run : Run name s acts t)
      (step : Step name t a u) : Run name s (acts ++ [a]) u

section

variable (s : Sharing σ) (name value : String) (i j : Nat) (stage stage' : Stage σ)

@[simp] theorem params_move : (s.move i stage).params = s.params := rfl

theorem stage_move : (s.move i stage).stage j = if j = i then stage else s.stage j :=
  Function.update_apply s.stage i stage j

@[simp] theorem stage_move_self : (s.move i stage).stage i = stage := by
  rw [stage_move, if_pos rfl]

@[simp] theorem move_move : (s.move i stage).move i stage' = s.move i stage' := by
  simp [move]

@[simp] theorem advance_move (world : σ) :
    (s.move i stage).advance world = (s.advance world).move i stage := rfl

@[simp] theorem keep_move :
    (s.move i stage).keep name value = (s.keep name value).move i stage := rfl

@[simp] theorem slot_keep :
    (s.keep name value).params.slot name = { s.params.slot name with kept := some value } := by
  simp [keep, slot]

end

/-! ## A task by itself -/

section

variable {name : String} {s : Sharing σ} {i : Nat}

theorem move_eq_self {stage : Stage σ} (h : s.stage i = stage) : s.move i stage = s := by
  rw [move, ← h, Function.update_eq_self]

/-- A task returns to where it was before it asked. -/
theorem Run.leave {acts : List Act} {t : Sharing σ} {result : Except ParameterError String}
    (h : Run name s acts (t.move i (.leaving result))) (hi : t.stage i = .idle) :
    Run name s (acts ++ [.returned i result]) t := by
  have hreturned := h.snoc (.returned (stage_move_self t i _))
  rwa [move_move, move_eq_self hi] at hreturned

/-- A task that nobody disturbs gets what asking for the parameter gives. -/
theorem run_get (hi : s.stage i = .idle) :
    ∃ acts, Run name s (acts ++ [.returned i (s.params.get name s.world).1])
      ⟨(s.params.get name s.world).2.1, (s.params.get name s.world).2.2, s.stage⟩ := by
  have hcall : Run name s [.call i] (s.move i .asking) := .snoc .refl (.call hi)
  have hunset : s.params.values.get? name = none →
      Run name s [.call i, .look i none] (s.move i .unset) := by
    intro hset
    have hlook := hcall.snoc (.unset (stage_move_self s i _) hset)
    rwa [move_move] at hlook
  have hmissed : s.params.IsOpen name →
      Run name s [.call i, .look i none, .peek i none] (s.move i .missed) := by
    rintro ⟨hset, hkept⟩
    have hpeek := (hunset hset).snoc (.miss (stage_move_self s i _) hkept)
    rwa [move_move] at hpeek
  have hholding : s.params.IsOpen name → ∀ f, s.params.providers.get? name = some f →
      Run name s [.call i, .look i none, .peek i none, .fetch i true] (s.move i (.holding f)) := by
    intro hopen f hf
    have hfetch := (hmissed hopen).snoc (.fetch (stage_move_self s i _) hf)
    rwa [move_move] at hfetch
  rcases s.params.get_cases name s.world with ⟨value, hset | ⟨hset, hkept⟩, heq⟩ |
    ⟨hopen, hnone, heq⟩ | ⟨hopen, f, hf, reason, after, hanswer, heq⟩ |
    ⟨hopen, f, hf, value, after, hanswer, heq⟩
  · have hlook := hcall.snoc (.set (stage_move_self s i _) hset)
    rw [move_move] at hlook
    rw [heq]
    exact ⟨_, hlook.leave hi⟩
  · have hpeek := (hunset hset).snoc (.hit (stage_move_self s i _) hkept)
    rw [move_move] at hpeek
    rw [heq]
    exact ⟨_, hpeek.leave hi⟩
  · have hfetch := (hmissed hopen).snoc (.unknown (stage_move_self s i _) hnone)
    rw [move_move] at hfetch
    rw [heq]
    exact ⟨_, hfetch.leave hi⟩
  · have hrefuse := (hholding hopen f hf).snoc (.refuse (stage_move_self s i _) hanswer)
    rw [advance_move, move_move] at hrefuse
    rw [heq]
    exact ⟨_, hrefuse.leave hi⟩
  · have hgive := (hholding hopen f hf).snoc (.give (stage_move_self s i _) hanswer)
    rw [advance_move, move_move] at hgive
    have hkeep := hgive.snoc (.keep (stage_move_self _ i _))
    rw [keep_move, move_move] at hkeep
    rw [heq]
    exact ⟨_, hkeep.leave hi⟩

end

/-! ## What the acts tell -/

def Act.given? : Act → Option (Nat × String)
  | .answer i (.ok value) => some (i, value)
  | _ => none

def Act.kept? : Act → Option String
  | .keep _ value => some value
  | _ => none

def Act.returned? : Act → Option String
  | .returned _ (.ok value) => some value
  | _ => none

/-- Who was given a value by the provider, and which. -/
def givenIn (acts : List Act) : List (Nat × String) := acts.filterMap Act.given?

def keptIn (acts : List Act) : List String := acts.filterMap Act.kept?

def returnedIn (acts : List Act) : List String := acts.filterMap Act.returned?

def MissedEarly (acts : List Act) (i : Nat) : Prop :=
  ∃ early late, acts = early ++ .peek i none :: late ∧ keptIn early = []

def Comes (before : Option String) (acts : List Act) (value : String) : Prop :=
  before = some value ∨ ∃ i, (i, value) ∈ givenIn acts

/-- The provider gives one value at most, and all who return with a value return with the same. -/
def OnceOnly (acts : List Act) : Prop :=
  (givenIn acts).length ≤ 1 ∧ ∀ v ∈ returnedIn acts, ∀ w ∈ returnedIn acts, v = w

/-- Two tasks found nothing kept before anything was, and the provider gave a value to both. -/
def Raced (acts : List Act) : Prop :=
  ∃ i j v w, i ≠ j ∧ (i, v) ∈ givenIn acts ∧ (j, w) ∈ givenIn acts ∧ MissedEarly acts i ∧
    MissedEarly acts j

section

variable {acts : List Act} {i : Nat} {before : Option String} {value : String} (a : Act)

theorem filterMap_concat {α β : Type} (f : α → Option β) (l : List α) (x : α) :
    (l ++ [x]).filterMap f = l.filterMap f ++ (f x).toList := by
  rw [List.filterMap_append]
  cases h : f x <;> simp [h]

theorem givenIn_concat : givenIn (acts ++ [a]) = givenIn acts ++ a.given?.toList :=
  filterMap_concat _ _ _

theorem keptIn_concat : keptIn (acts ++ [a]) = keptIn acts ++ a.kept?.toList :=
  filterMap_concat _ _ _

theorem returnedIn_concat : returnedIn (acts ++ [a]) = returnedIn acts ++ a.returned?.toList :=
  filterMap_concat _ _ _

theorem givenIn_concat_of_none {a : Act} (h : a.given? = none) :
    givenIn (acts ++ [a]) = givenIn acts := by
  rw [givenIn_concat, h, Option.toList_none, List.append_nil]

theorem keptIn_concat_of_none {a : Act} (h : a.kept? = none) :
    keptIn (acts ++ [a]) = keptIn acts := by
  rw [keptIn_concat, h, Option.toList_none, List.append_nil]

theorem MissedEarly.concat (h : MissedEarly acts i) : MissedEarly (acts ++ [a]) i := by
  obtain ⟨early, late, rfl, hearly⟩ := h
  exact ⟨early, late ++ [a], by simp, hearly⟩

theorem mem_givenIn_concat {x : Nat × String} (h : x ∈ givenIn acts) :
    x ∈ givenIn (acts ++ [a]) := by
  rw [givenIn_concat]
  exact List.mem_append_left _ h

theorem Comes.concat (h : Comes before acts value) : Comes before (acts ++ [a]) value :=
  h.imp_right fun ⟨i, hi⟩ => ⟨i, mem_givenIn_concat a hi⟩

end

theorem length_le_one_iff {α : Type} {l : List α} (h : l.Nodup) :
    l.length ≤ 1 ↔ ∀ x ∈ l, ∀ y ∈ l, x = y := by
  match l with
  | [] => simp
  | [x] => simp
  | x :: y :: l =>
    have hne : x ≠ y := by
      rintro rfl
      exact (List.nodup_cons.mp h).1 List.mem_cons_self
    constructor
    · intro hlength
      simp at hlength
    · intro hsame
      exact absurd (hsame x (by simp) y (by simp)) hne

/-! ## What has been found and given -/

/-- Where a task stands fits what has been done. -/
def Fits (before : Option String) (acts : List Act) (i : Nat) : Stage σ → Prop
  | .missed | .holding _ => before = none ∧ MissedEarly acts i ∧ ∀ v, (i, v) ∉ givenIn acts
  | .given value => (i, value) ∈ givenIn acts
  | .leaving (.ok value) => Comes before acts value
  | _ => True

theorem Fits.concat {before : Option String} {acts : List Act} {i : Nat} {stage : Stage σ}
    (h : Fits before acts i stage) {a : Act} (ha : ∀ v, a.given? ≠ some (i, v)) :
    Fits before (acts ++ [a]) i stage := by
  have hnot : (∀ v, (i, v) ∉ givenIn acts) → ∀ v, (i, v) ∉ givenIn (acts ++ [a]) := by
    intro hnone v hv
    rw [givenIn_concat, List.mem_append, Option.mem_toList] at hv
    exact hv.elim (hnone v) (ha v)
  cases stage with
  | missed | holding =>
    obtain ⟨hkept, hmissed, hnone⟩ := h
    exact ⟨hkept, hmissed.concat a, hnot hnone⟩
  | given value => exact mem_givenIn_concat a h
  | leaving result =>
    cases result with
    | ok value => exact Comes.concat a h
    | error => trivial
  | idle | asking | unset => trivial

/-- What is held of the parameter, where the tasks stand and what has been done belong together,
when this was kept from the start. -/
structure Stands (name : String) (before : Option String) (acts : List Act) (s : Sharing σ) :
    Prop where
  fixed : (s.params.slot name).fixed = none
  kept : (s.params.slot name).kept = (keptIn acts).getLast?.or before
  fits : ∀ i, Fits before acts i (s.stage i)
  /-- Whoever was given a value still holds it or has kept it, so that nobody misses after him. -/
  given : ∀ i v, (i, v) ∈ givenIn acts →
    before = none ∧ MissedEarly acts i ∧ (s.stage i = .given v ∨ keptIn acts ≠ [])
  nodup : ((givenIn acts).map Prod.fst).Nodup
  comes : ∀ v, v ∈ keptIn acts ∨ v ∈ returnedIn acts → Comes before acts v

namespace Stands

variable {name : String} {before : Option String} {acts : List Act} {s : Sharing σ}

theorem start (hidle : ∀ i, s.stage i = .idle) (hfixed : (s.params.slot name).fixed = none) :
    Stands name (s.params.slot name).kept [] s where
  fixed := hfixed
  kept := rfl
  fits := by
    intro i
    rw [hidle i]
    trivial
  given := fun _ _ h => nomatch h
  nodup := .nil
  comes := by
    rintro v (hv | hv) <;> cases hv

/-- An act by which no value is given or kept. A task that goes to another place was not about to
keep a value. -/
theorem quiet (h : Stands name before acts s) {a : Act} {t : Sharing σ}
    (hslot : t.params.slot name = s.params.slot name) (hgiven : a.given? = none)
    (hkept : a.kept? = none) (hreturned : ∀ v, a.returned? = some v → Comes before acts v)
    (hstage : ∀ i, t.stage i = s.stage i ∨
      (∀ v, s.stage i ≠ .given v) ∧ Fits before (acts ++ [a]) i (t.stage i)) :
    Stands name before (acts ++ [a]) t where
  fixed := by
    rw [hslot]
    exact h.fixed
  kept := by
    rw [hslot, keptIn_concat_of_none hkept]
    exact h.kept
  fits := by
    intro i
    rcases hstage i with hsame | ⟨-, hto⟩
    · rw [hsame]
      exact (h.fits i).concat (by simp [hgiven])
    · exact hto
  given := by
    intro i v hi
    rw [givenIn_concat_of_none hgiven] at hi
    obtain ⟨hbefore, hmissed, hholds⟩ := h.given i v hi
    refine ⟨hbefore, hmissed.concat a, ?_⟩
    rw [keptIn_concat_of_none hkept]
    refine hholds.imp_left fun hi => ?_
    rcases hstage i with hsame | ⟨hfrom, -⟩
    · exact hsame.trans hi
    · exact absurd hi (hfrom v)
  nodup := by
    rw [givenIn_concat_of_none hgiven]
    exact h.nodup
  comes := by
    intro v hv
    rw [keptIn_concat_of_none hkept, returnedIn_concat, List.mem_append, Option.mem_toList,
      ← or_assoc] at hv
    rcases hv with hv | hv
    · exact (h.comes v hv).concat a
    · exact (hreturned v hv).concat a

theorem move (h : Stands name before acts s) {a : Act} {i : Nat} {dest : Stage σ}
    (hgiven : a.given? = none) (hkept : a.kept? = none) (hfrom : ∀ v, s.stage i ≠ .given v)
    (hto : Fits before (acts ++ [a]) i dest)
    (hreturned : ∀ v, a.returned? = some v → Comes before acts v) :
    Stands name before (acts ++ [a]) (s.move i dest) := by
  refine h.quiet rfl hgiven hkept hreturned fun j => ?_
  rw [stage_move]
  split
  · rename_i hj
    subst hj
    exact .inr ⟨hfrom, hto⟩
  · exact .inl rfl

theorem advance (h : Stands name before acts s) (world : σ) :
    Stands name before acts (s.advance world) :=
  ⟨h.fixed, h.kept, h.fits, h.given, h.nodup, h.comes⟩

theorem give (h : Stands name before acts s) {i : Nat} {f : Provider σ}
    (hi : s.stage i = .holding f) (value : String) :
    Stands name before (acts ++ [.answer i (.ok value)]) (s.move i (.given value)) := by
  have hfits := h.fits i
  rw [hi] at hfits
  obtain ⟨hbefore, hmissed, hnot⟩ := hfits
  have hgiven : givenIn (acts ++ [.answer i (.ok value)]) = givenIn acts ++ [(i, value)] :=
    givenIn_concat _
  have hkept : keptIn (acts ++ [.answer i (.ok value)]) = keptIn acts :=
    keptIn_concat_of_none rfl
  refine ⟨h.fixed, hkept ▸ h.kept, fun j => ?_, fun j v hj => ?_, ?_, fun v hv => ?_⟩
  · rw [stage_move]
    split
    · rename_i hj
      subst hj
      change (j, value) ∈ givenIn _
      rw [hgiven]
      exact List.mem_append_right _ List.mem_cons_self
    · rename_i hj
      refine (h.fits j).concat fun v hv => hj ?_
      exact (congrArg Prod.fst (Option.some.inj hv)).symm
  · rw [hkept]
    rw [hgiven, List.mem_append, List.mem_singleton] at hj
    rcases hj with hj | hj
    · obtain ⟨-, hearly, hholds⟩ := h.given j v hj
      refine ⟨hbefore, hearly.concat _, hholds.imp_left fun hj' => ?_⟩
      have hne : j ≠ i := by
        rintro rfl
        exact hnot v hj
      rw [stage_move, if_neg hne, hj']
    · obtain ⟨rfl, rfl⟩ := Prod.mk.inj hj
      exact ⟨hbefore, hmissed.concat _, .inl (stage_move_self s j _)⟩
  · -- The task was given nothing before, for it would not have missed otherwise.
    rw [hgiven, List.map_append, List.nodup_append]
    refine ⟨h.nodup, List.nodup_singleton _, ?_⟩
    rintro j hj k hk rfl
    obtain ⟨⟨_, v⟩, hv, rfl⟩ := List.mem_map.mp hj
    rw [List.map_singleton, List.mem_singleton] at hk
    subst hk
    exact hnot v hv
  · rw [hkept, returnedIn_concat] at hv
    exact (h.comes v (by simpa [Act.returned?] using hv)).concat _

theorem keep (h : Stands name before acts s) {i : Nat} {value : String}
    (hi : s.stage i = .given value) :
    Stands name before (acts ++ [.keep i value])
      ((s.keep name value).move i (.leaving (.ok value))) := by
  have hfits := h.fits i
  rw [hi] at hfits
  have hcomes : Comes before acts value := .inr ⟨i, hfits⟩
  have hgiven : givenIn (acts ++ [.keep i value]) = givenIn acts := givenIn_concat_of_none rfl
  have hkept : keptIn (acts ++ [.keep i value]) = keptIn acts ++ [value] := keptIn_concat _
  refine ⟨h.fixed, ?_, fun j => ?_, fun j v hj => ?_, hgiven ▸ h.nodup, fun v hv => ?_⟩
  · rw [params_move, slot_keep, hkept, List.getLast?_concat]
    rfl
  · rw [stage_move]
    split
    · exact hcomes.concat _
    · exact (h.fits j).concat fun v hv => nomatch hv
  · rw [hgiven] at hj
    obtain ⟨hbefore, hmissed, -⟩ := h.given j v hj
    exact ⟨hbefore, hmissed.concat _, .inr (by simp [hkept])⟩
  · rw [hkept, List.mem_append, List.mem_singleton, returnedIn_concat] at hv
    rcases hv with (hv | rfl) | hv
    · exact (h.comes v (.inl hv)).concat _
    · exact hcomes.concat _
    · exact (h.comes v (.inr (by simpa [Act.returned?] using hv))).concat _

theorem comes_of_found (h : Stands name before acts s) {value : String}
    (hfound : (s.params.slot name).kept = some value) : Comes before acts value := by
  rw [h.kept, Option.or_eq_some_iff] at hfound
  rcases hfound with hlast | ⟨-, hbefore⟩
  · exact h.comes value (.inl (List.mem_of_getLast? hlast))
  · exact .inl hbefore

/-- Where nothing is kept, nothing ever was. -/
theorem of_missing (h : Stands name before acts s) (hnone : (s.params.slot name).kept = none) :
    before = none ∧ keptIn acts = [] := by
  rw [h.kept, Option.or_eq_none_iff, List.getLast?_eq_none_iff] at hnone
  exact hnone.symm

theorem miss (h : Stands name before acts s) {i : Nat} (hi : s.stage i = .unset)
    (hnone : (s.params.slot name).kept = none) :
    Stands name before (acts ++ [.peek i none]) (s.move i .missed) := by
  obtain ⟨hbefore, hkept⟩ := h.of_missing hnone
  have hnot : ∀ v, (i, v) ∉ givenIn acts := by
    intro v hv
    obtain ⟨-, -, hgiven | hne⟩ := h.given i v hv
    · cases hi.symm.trans hgiven
    · exact hne hkept
  -- Whatever is kept from here on, this task does not look again before it asks the provider.
  refine h.move rfl rfl (by simp [hi]) ?_ (fun _ hv => nomatch hv)
  refine ⟨hbefore, ⟨acts, [], rfl, hkept⟩, fun v => ?_⟩
  rw [givenIn_concat_of_none rfl]
  exact hnot v

theorem step (h : Stands name before acts s) {a : Act} {t : Sharing σ} (ha : Step name s a t) :
    Stands name before (acts ++ [a]) t := by
  cases ha with
  | set hi found => cases h.fixed.symm.trans found
  | give hi _ => exact (h.give hi _).advance _
  | keep hi => exact h.keep hi
  | miss hi missing => exact h.miss hi missing
  | call hi | unset hi _ | unknown hi _ =>
    exact h.move rfl rfl (by simp [hi]) trivial (fun _ hv => nomatch hv)
  | hit hi found =>
    have hcomes := h.comes_of_found found
    exact h.move rfl rfl (by simp [hi]) (hcomes.concat _) (fun _ hv => nomatch hv)
  | @fetch i f hi _ =>
    have hfits := h.fits i
    rw [hi] at hfits
    have hto : Fits before (acts ++ [.fetch i true]) i (.holding f) :=
      Fits.concat hfits fun _ hv => nomatch hv
    exact h.move rfl rfl (by simp [hi]) hto (fun _ hv => nomatch hv)
  | @refuse i f reason after hi _ =>
    have hfrom : ∀ v, (s.advance after).stage i ≠ .given v := by
      change ∀ v, s.stage i ≠ .given v
      simp [hi]
    exact (h.advance after).move rfl rfl hfrom trivial (fun _ hv => nomatch hv)
  | @returned i result hi =>
    have hfits := h.fits i
    rw [hi] at hfits
    refine h.move rfl rfl (by simp [hi]) trivial fun v hv => ?_
    cases result with
    | ok value =>
      cases hv
      exact hfits
    | error => cases hv
  | other world same =>
    exact h.quiet same rfl rfl (fun _ hv => nomatch hv) fun _ => .inl rfl

theorem run (h : Stands name before acts s) {more : List Act} {t : Sharing σ}
    (hrun : Run name s more t) : Stands name before (acts ++ more) t := by
  induction hrun with
  | refl => rwa [List.append_nil]
  | snoc _ hstep ih =>
    rw [← List.append_assoc]
    exact ih.step hstep

theorem same_of_not_raced (h : Stands name before acts s) (hraced : ¬ Raced acts)
    {x y : Nat × String} (hx : x ∈ givenIn acts) (hy : y ∈ givenIn acts) : x = y := by
  by_cases hfst : x.1 = y.1
  · exact List.inj_on_of_nodup_map h.nodup hx hy hfst
  · refine absurd ⟨x.1, y.1, x.2, y.2, hfst, hx, hy, ?_, ?_⟩ hraced
    · exact (h.given _ _ hx).2.1
    · exact (h.given _ _ hy).2.1

theorem onceOnly_iff (h : Stands name before acts s) : OnceOnly acts ↔ ¬ Raced acts := by
  have hlength := length_le_one_iff h.nodup.of_map
  constructor
  · rintro ⟨honce, -⟩ ⟨i, j, v, w, hne, hv, hw, -⟩
    exact hne (congrArg Prod.fst (hlength.mp honce _ hv _ hw))
  · intro hraced
    refine ⟨hlength.mpr fun x hx y hy => h.same_of_not_raced hraced hx hy, fun v hv w hw => ?_⟩
    rcases h.comes v (.inr hv) with hbefore | ⟨i, hi⟩
    · rcases h.comes w (.inr hw) with hbefore' | ⟨j, hj⟩
      · exact Option.some.inj (hbefore.symm.trans hbefore')
      · cases hbefore.symm.trans (h.given j w hj).1
    · rcases h.comes w (.inr hw) with hbefore' | ⟨j, hj⟩
      · cases hbefore'.symm.trans (h.given i v hi).1
      · exact congrArg Prod.snd (h.same_of_not_raced hraced hi hj)

end Stands

/-- Tasks that ask for a parameter which is not set make the provider give one value at most, and
all return with the same, exactly when no two of them found nothing kept before anything was and
were both given a value. In any case the provider gives each task one value at most, and only to
those that found nothing kept before anything was; a task returns with nothing but what was kept
from the start or a value of the provider; what is kept is what was kept last; and a task that is
not disturbed gets what asking for the parameter gives. -/
theorem run_onceOnly_iff {name : String} {start s : Sharing σ} {acts : List Act}
    (hrun : Run name start acts s) (hidle : ∀ i, start.stage i = .idle)
    (hfixed : (start.params.slot name).fixed = none) :
    (OnceOnly acts ↔ ¬ Raced acts) ∧
      ((givenIn acts).map Prod.fst).Nodup ∧
      (∀ i v, (i, v) ∈ givenIn acts →
        (start.params.slot name).kept = none ∧ MissedEarly acts i) ∧
      (∀ v ∈ returnedIn acts, Comes (start.params.slot name).kept acts v) ∧
      (s.params.slot name).kept = (keptIn acts).getLast?.or (start.params.slot name).kept ∧
      ∀ i, s.stage i = .idle →
        ∃ more, Run name s (more ++ [.returned i (s.params.get name s.world).1])
          ⟨(s.params.get name s.world).2.1, (s.params.get name s.world).2.2, s.stage⟩ := by
  have h : Stands name (start.params.slot name).kept acts s :=
    (Stands.start hidle hfixed).run hrun
  refine ⟨h.onceOnly_iff, h.nodup, fun i v hv => ?_, fun v hv => h.comes v (.inr hv), h.kept,
    fun i hi => run_get hi⟩
  obtain ⟨hnone, hmissed, -⟩ := h.given i v hv
  exact ⟨hnone, hmissed⟩

/-- One parameter with a provider that answers otherwise the second time. -/
def fickle : Sharing ProviderAnswers :=
  ⟨empty.add "X" none (ProviderAnswers.provider 0), ⟨[[.ok "a", .ok "b"]], 0⟩, fun _ => .idle⟩

/-- Both tasks look at what is kept before either has called the provider. -/
def raceActs : List Act :=
  [.call 0, .look 0 none, .peek 0 none, .call 1, .look 1 none, .peek 1 none,
    .fetch 0 true, .answer 0 (.ok "a"), .keep 0 "a", .returned 0 (.ok "a"),
    .fetch 1 true, .answer 1 (.ok "b"), .keep 1 "b", .returned 1 (.ok "b")]

theorem run_raceActs : ∃ s, Run "X" fickle raceActs s := by
  -- The two answers differ, since the first call has changed the state of the provider.
  let f : Provider ProviderAnswers := ProviderAnswers.provider 0
  exact ⟨_, .snoc (.snoc (.snoc (.snoc (.snoc (.snoc (.snoc (.snoc (.snoc (.snoc (.snoc (.snoc
    (.snoc (.snoc .refl (.call rfl)) (.unset rfl rfl)) (.miss rfl rfl)) (.call rfl))
    (.unset rfl rfl)) (.miss rfl rfl)) (.fetch (f := f) rfl rfl)) (.give (f := f) rfl rfl))
    (.keep rfl)) (.returned rfl)) (.fetch (f := f) rfl rfl)) (.give (f := f) rfl rfl)) (.keep rfl))
    (.returned rfl)⟩

theorem run_onceOnly_iff_race : ∃ s, Run "X" fickle raceActs s ∧
    returnedIn raceActs = ["a", "b"] ∧ ¬ OnceOnly raceActs ∧
    (s.params.slot "X").kept = some "b" := by
  obtain ⟨s, hs⟩ := run_raceActs
  obtain ⟨hiff, -, -, -, hkept, -⟩ := run_onceOnly_iff hs (fun _ => rfl) rfl
  have hraced : Raced raceActs := by
    refine ⟨0, 1, "a", "b", by decide, by decide, by decide, ?_, ?_⟩
    · exact ⟨raceActs.take 2, raceActs.drop 3, by decide, by decide⟩
    · exact ⟨raceActs.take 5, raceActs.drop 6, by decide, by decide⟩
  exact ⟨s, hs, by decide, fun honce => hiff.mp honce hraced, hkept⟩

theorem not_forall_run_onceOnly : ¬ ∀ (name : String) (start s : Sharing ProviderAnswers)
    (acts : List Act), Run name start acts s → (∀ i, start.stage i = .idle) →
    (start.params.slot name).fixed = none → OnceOnly acts := by
  intro honce
  obtain ⟨s, hs⟩ := run_raceActs
  obtain ⟨-, hsame⟩ := honce "X" fickle s raceActs hs (fun _ => rfl) rfl
  exact absurd (hsame "a" (by decide) "b" (by decide)) (by decide)

end Sharing

end StagedTests.DeferredParameters
