import Mathlib.Logic.Function.Basic
import StagedTests.Cancellation.Token

/-!
# The signal behind a token

A token is shared by tasks that cancel it, look at it and wait for its cancellation all at once. A
cancellation sets a flag, writes its cause and wakes the waiting tasks in three steps of its own; a
task that waits looks at the flag, begins to listen, looks again and only then goes to sleep. Others
may act between any two of these steps. Waking reaches every task that has begun to listen, asleep
or not, and no other.
-/

namespace StagedTests

inductive Signal.Stage
  | idle
  /-- Cancelling, before the flag is tried. -/
  | cancelling (reason : String)
  /-- This task has set the flag. -/
  | won (reason : String)
  /-- It has also written the cause. -/
  | written
  /-- Nothing is left of the cancellation but to return. -/
  | leaving (won : Bool)
  /-- Waiting, before a look at the flag. -/
  | arriving
  /-- The flag was not set. -/
  | unset
  /-- Listening since so many rounds of waking. -/
  | listening (round : Nat)
  | parked (round : Nat)
  deriving DecidableEq

/-- In the midst of the cancellation that counts. -/
def Signal.Stage.isWinning : Signal.Stage → Bool
  | .won _ | .written => true
  | _ => false

/-- The memory of a token, and where the tasks stand that share it. -/
structure Signal where
  flag : Bool
  cause : Option String
  /-- How often the listening tasks were woken. -/
  rounds : Nat
  stage : Nat → Signal.Stage

namespace Signal

def fresh : Signal := ⟨false, none, 0, fun _ => .idle⟩

def move (s : Signal) (i : Nat) (stage : Stage) : Signal :=
  { s with stage := Function.update s.stage i stage }

inductive Act
  | call (i : Nat) (reason : String)
  | exchange (i : Nat) (reason : String) (won : Bool)
  | write (i : Nat) (reason : String)
  | notify (i : Nat)
  | returned (i : Nat) (won : Bool)
  | look (i : Nat) (flag : Bool)
  | read (i : Nat) (cause : Option String)
  | wait (i : Nat)
  | check (i : Nat) (flag : Bool)
  | listen (i : Nat)
  | wake (i : Nat)
  | abandon (i : Nat)
  deriving DecidableEq

inductive Step (s : Signal) : Act → Signal → Prop
  | call {i : Nat} (reason : String) (at_ : s.stage i = .idle) :
      Step s (.call i reason) (s.move i (.cancelling reason))
  | win {i : Nat} {reason : String} (at_ : s.stage i = .cancelling reason)
      (unset : s.flag = false) :
      Step s (.exchange i reason true) ({ s with flag := true }.move i (.won reason))
  | lose {i : Nat} {reason : String} (at_ : s.stage i = .cancelling reason)
      (set : s.flag = true) :
      Step s (.exchange i reason false) (s.move i (.leaving false))
  | write {i : Nat} {reason : String} (at_ : s.stage i = .won reason) :
      Step s (.write i reason) ({ s with cause := some reason }.move i .written)
  | notify {i : Nat} (at_ : s.stage i = .written) :
      Step s (.notify i) ({ s with rounds := s.rounds + 1 }.move i (.leaving true))
  | returned {i : Nat} {won : Bool} (at_ : s.stage i = .leaving won) :
      Step s (.returned i won) (s.move i .idle)
  | look {i : Nat} (at_ : s.stage i = .idle) : Step s (.look i s.flag) s
  | read {i : Nat} (at_ : s.stage i = .idle) : Step s (.read i s.cause) s
  | wait {i : Nat} (at_ : s.stage i = .idle) : Step s (.wait i) (s.move i .arriving)
  | check {i : Nat} (at_ : s.stage i = .arriving) :
      Step s (.check i s.flag) (s.move i (if s.flag then .idle else .unset))
  | listen {i : Nat} (at_ : s.stage i = .unset) :
      Step s (.listen i) (s.move i (.listening s.rounds))
  | recheck {i round : Nat} (at_ : s.stage i = .listening round) :
      Step s (.check i s.flag) (s.move i (if s.flag then .idle else .parked round))
  | wake {i round : Nat} (at_ : s.stage i = .parked round) (woken : round < s.rounds) :
      Step s (.wake i) (s.move i .arriving)
  /-- A task that sleeps may be given up. -/
  | abandon {i round : Nat} (at_ : s.stage i = .parked round) :
      Step s (.abandon i) (s.move i .idle)

inductive Run (s : Signal) : List Act → Signal → Prop
  | refl : Run s [] s
  | snoc {acts : List Act} {t u : Signal} {a : Act} (run : Run s acts t) (step : Step t a u) :
      Run s (acts ++ [a]) u

/-! ## What the acts tell -/

def Act.exchange? : Act → Option String
  | .exchange _ reason _ => some reason
  | _ => none

def Act.win? : Act → Option String
  | .exchange _ reason true => some reason
  | _ => none

def Act.write? : Act → Option String
  | .write _ reason => some reason
  | _ => none

def exchanges (acts : List Act) : List String := acts.filterMap Act.exchange?

def wins (acts : List Act) : List String := acts.filterMap Act.win?

def writes (acts : List Act) : List String := acts.filterMap Act.write?

theorem exchanges_concat (acts : List Act) (a : Act) :
    exchanges (acts ++ [a]) = exchanges acts ++ a.exchange?.toList := by
  rw [exchanges, List.filterMap_append]
  cases h : a.exchange? <;> simp [exchanges, h]

theorem wins_concat (acts : List Act) (a : Act) :
    wins (acts ++ [a]) = wins acts ++ a.win?.toList := by
  rw [wins, List.filterMap_append]
  cases h : a.win? <;> simp [wins, h]

theorem writes_concat (acts : List Act) (a : Act) :
    writes (acts ++ [a]) = writes acts ++ a.write?.toList := by
  rw [writes, List.filterMap_append]
  cases h : a.write? <;> simp [writes, h]

/-! ## How far the cancellation has come -/

section

variable (s : Signal) (i j : Nat) (stage : Stage)

@[simp] theorem flag_move : (s.move i stage).flag = s.flag := rfl

@[simp] theorem cause_move : (s.move i stage).cause = s.cause := rfl

@[simp] theorem rounds_move : (s.move i stage).rounds = s.rounds := rfl

theorem stage_move : (s.move i stage).stage j = if j = i then stage else s.stage j :=
  Function.update_apply s.stage i stage j

end

inductive Progress
  | calm
  | flagged (i : Nat) (reason : String)
  | caused (i : Nat) (reason : String)
  | woken (reason : String)

namespace Progress

def reason? : Progress → Option String
  | .calm => none
  | .flagged _ reason | .caused _ reason | .woken reason => some reason

def cause? : Progress → Option String
  | .calm | .flagged _ _ => none
  | .caused _ reason | .woken reason => some reason

def rounds : Progress → Nat
  | .calm | .flagged _ _ | .caused _ _ => 0
  | .woken _ => 1

/-- The task that is in the midst of the cancellation, and where it stands. -/
def winner? : Progress → Option (Nat × Stage)
  | .flagged i reason => some (i, .won reason)
  | .caused i _ => some (i, .written)
  | .calm | .woken _ => none

/-- The next thing that is done to the memory. -/
inductive Next : Progress → Progress → Prop
  | stay (p : Progress) : Next p p
  | flag (i : Nat) (reason : String) : Next .calm (.flagged i reason)
  | cause (i : Nat) (reason : String) : Next (.flagged i reason) (.caused i reason)
  | wake (i : Nat) (reason : String) : Next (.caused i reason) (.woken reason)

namespace Next

variable {p q : Progress}

theorem reason?_eq (h : Next p q) {reason : String} (hp : p.reason? = some reason) :
    q.reason? = some reason := by
  cases h <;> first | exact hp | cases hp

theorem cause?_eq (h : Next p q) {reason : String} (hp : p.cause? = some reason) :
    q.cause? = some reason := by
  cases h <;> first | exact hp | cases hp

end Next

end Progress

/-- The memory, the tasks and what has been done show that the cancellation has come so far. -/
structure Stands (p : Progress) (acts : List Act) (s : Signal) : Prop where
  flag : s.flag = p.reason?.isSome
  cause : s.cause = p.cause?
  rounds : s.rounds = p.rounds
  exchanges : (exchanges acts).head? = p.reason?
  wins : wins acts = p.reason?.toList
  writes : writes acts = p.cause?.toList
  winner : ∀ j stage, stage.isWinning = true → (s.stage j = stage ↔ p.winner? = some (j, stage))
  done : ∀ j, s.stage j = .leaving true ∨ Act.returned j true ∈ acts → p.rounds = 1
  /-- Nobody goes to sleep who has begun to listen behind the waking. -/
  parked : ∀ j round, s.stage j = .parked round → round = 0
  listening : ∀ j round, s.stage j = .listening round → round ≤ s.rounds

namespace Stands

variable {p : Progress} {acts : List Act} {s : Signal}

theorem fresh : Stands .calm [] fresh where
  flag := rfl
  cause := rfl
  rounds := rfl
  exchanges := rfl
  wins := rfl
  writes := rfl
  winner := by
    intro j stage hstage
    constructor
    · rintro rfl
      cases hstage
    · intro h
      cases h
  done := by
    intro j h
    rcases h with h | h <;> cases h
  parked := fun _ _ h => by cases h
  listening := fun _ _ h => by cases h

theorem head?_append_toList {l : List String} {o : Option String} (h : o = none ∨ l ≠ []) :
    (l ++ o.toList).head? = l.head? := by
  rcases h with rfl | h
  · rw [Option.toList_none, List.append_nil]
  · cases l with
    | nil => exact absurd rfl h
    | cons a l => rfl

theorem winner_move (h : Stands p acts s) {i : Nat} {dest : Stage}
    (hfrom : (s.stage i).isWinning = false) (hto : dest.isWinning = false) (j : Nat) (stage : Stage)
    (hstage : stage.isWinning = true) :
    (s.move i dest).stage j = stage ↔ p.winner? = some (j, stage) := by
  rw [stage_move]
  split
  · rename_i hj
    subst hj
    rw [← h.winner j stage hstage]
    constructor
    · rintro rfl
      rw [hto] at hstage
      cases hstage
    · rintro rfl
      rw [hfrom] at hstage
      cases hstage
  · exact h.winner j stage hstage

theorem quiet (h : Stands p acts s) {a : Act} {i : Nat} {dest : Stage}
    (hfrom : (s.stage i).isWinning = false) (hto : dest.isWinning = false)
    (hexchange : a.exchange? = none ∨ s.flag = true) (hwin : a.win? = none)
    (hwrite : a.write? = none) (hleaving : dest ≠ .leaving true)
    (hreturned : ∀ j, a = .returned j true → s.stage j = .leaving true)
    (hparked : ∀ round, dest = .parked round → round = 0)
    (hlistening : ∀ round, dest = .listening round → round ≤ s.rounds) :
    Stands p (acts ++ [a]) (s.move i dest) where
  flag := h.flag
  cause := h.cause
  rounds := h.rounds
  exchanges := by
    rw [exchanges_concat, head?_append_toList, h.exchanges]
    refine hexchange.imp_right fun hflag hnil => ?_
    have hhead := h.exchanges
    rw [hnil, List.head?_nil] at hhead
    rw [h.flag, ← hhead] at hflag
    cases hflag
  wins := by rw [wins_concat, hwin, Option.toList_none, List.append_nil, h.wins]
  writes := by rw [writes_concat, hwrite, Option.toList_none, List.append_nil, h.writes]
  winner := h.winner_move hfrom hto
  done := by
    intro j hj
    rw [stage_move, List.mem_append, List.mem_singleton] at hj
    rcases hj with hj | hj | hj
    · split at hj
      · exact absurd hj hleaving
      · exact h.done j (.inl hj)
    · exact h.done j (.inr hj)
    · exact h.done j (.inl (hreturned j hj.symm))
  parked := by
    intro j round hj
    rw [stage_move] at hj
    split at hj
    · exact hparked round hj
    · exact h.parked j round hj
  listening := by
    intro j round hj
    rw [stage_move] at hj
    split at hj
    · exact hlistening round hj
    · exact h.listening j round hj

theorem look (h : Stands p acts s) {a : Act} {i : Nat}
    (ha : a = .look i s.flag ∨ ∃ cause, a = .read i cause) : Stands p (acts ++ [a]) s := by
  have hquiet : a.exchange? = none ∧ a.win? = none ∧ a.write? = none ∧
      ∀ j, a ≠ .returned j true := by
    rcases ha with rfl | ⟨cause, rfl⟩ <;> simp [Act.exchange?, Act.win?, Act.write?]
  obtain ⟨hexchange, hwin, hwrite, hreturned⟩ := hquiet
  exact
    { h with
      exchanges := by
        rw [exchanges_concat, hexchange, Option.toList_none, List.append_nil, h.exchanges]
      wins := by rw [wins_concat, hwin, Option.toList_none, List.append_nil, h.wins]
      writes := by rw [writes_concat, hwrite, Option.toList_none, List.append_nil, h.writes]
      done := by
        intro j hj
        rw [List.mem_append, List.mem_singleton] at hj
        rcases hj with hj | hj | hj
        · exact h.done j (.inl hj)
        · exact h.done j (.inr hj)
        · exact absurd hj.symm (hreturned j) }

theorem eq_calm (h : Stands p acts s) (hflag : s.flag = false) : p = .calm := by
  rw [h.flag] at hflag
  cases p <;> first | rfl | cases hflag

theorem eq_flagged (h : Stands p acts s) {i : Nat} {reason : String}
    (hi : s.stage i = .won reason) : p = .flagged i reason := by
  have hwinner : p.winner? = some (i, .won reason) := (h.winner i _ rfl).mp hi
  cases p <;> cases hwinner
  rfl

theorem eq_caused (h : Stands p acts s) {i : Nat} (hi : s.stage i = .written) :
    ∃ reason, p = .caused i reason := by
  have hwinner : p.winner? = some (i, .written) := (h.winner i _ rfl).mp hi
  cases p <;> cases hwinner
  exact ⟨_, rfl⟩

/-- Where the others stand while a task goes on with the cancellation. -/
theorem other_not_winning (h : Stands p acts s) {i j : Nat} (hj : j ≠ i)
    (hi : p.winner? = none ∨ (s.stage i).isWinning = true) : (s.stage j).isWinning = false := by
  cases hjw : (s.stage j).isWinning with
  | false => rfl
  | true =>
    have hwinner := (h.winner j _ hjw).mp rfl
    rcases hi with hi | hi
    · rw [hi] at hwinner
      cases hwinner
    · rw [(h.winner i _ hi).mp rfl] at hwinner
      exact absurd (congrArg Prod.fst (Option.some.inj hwinner)).symm hj

theorem winner_enter {i : Nat} {dest : Stage}
    (hother : ∀ j, j ≠ i → (s.stage j).isWinning = false) (j : Nat) (stage : Stage)
    (hstage : stage.isWinning = true) :
    (s.move i dest).stage j = stage ↔ some (i, dest) = some (j, stage) := by
  rw [stage_move]
  split
  · rename_i hj
    subst hj
    simp
  · rename_i hj
    constructor
    · rintro rfl
      rw [hother j hj] at hstage
      cases hstage
    · intro h
      exact absurd (congrArg Prod.fst (Option.some.inj h)).symm hj

theorem done_enter (h : Stands p acts s) (hp : p.rounds = 0) {q : Progress} {a : Act} {i : Nat}
    {dest : Stage} (hto : dest ≠ .leaving true) (ha : ∀ j, a ≠ .returned j true) (j : Nat)
    (hj : (s.move i dest).stage j = .leaving true ∨ Act.returned j true ∈ acts ++ [a]) :
    q.rounds = 1 := by
  have hnone : ¬ (s.stage j = .leaving true ∨ Act.returned j true ∈ acts) := by
    intro hold
    have hdone := h.done j hold
    omega
  rw [stage_move, List.mem_append, List.mem_singleton] at hj
  rcases hj with hj | hj | hj
  · split at hj
    · exact absurd hj hto
    · exact absurd (.inl hj) hnone
  · exact absurd (.inr hj) hnone
  · exact absurd hj.symm (ha j)

theorem parked_move (h : Stands p acts s) {i : Nat} {dest : Stage}
    (hto : ∀ round, dest ≠ .parked round) (j round : Nat)
    (hj : (s.move i dest).stage j = .parked round) : round = 0 := by
  rw [stage_move] at hj
  split at hj
  · exact absurd hj (hto round)
  · exact h.parked j round hj

theorem listening_move (h : Stands p acts s) {i : Nat} {dest : Stage}
    (hto : ∀ round, dest ≠ .listening round) (j round : Nat)
    (hj : (s.move i dest).stage j = .listening round) : round ≤ s.rounds := by
  rw [stage_move] at hj
  split at hj
  · exact absurd hj (hto round)
  · exact h.listening j round hj

theorem win (h : Stands .calm acts s) (i : Nat) (reason : String) :
    Stands (.flagged i reason) (acts ++ [.exchange i reason true])
      ({ s with flag := true }.move i (.won reason)) where
  flag := rfl
  cause := h.cause
  rounds := h.rounds
  exchanges := by
    have hnil : Signal.exchanges acts = [] := List.head?_eq_none_iff.mp h.exchanges
    rw [exchanges_concat, hnil]
    rfl
  wins := by
    rw [wins_concat, h.wins]
    rfl
  writes := by
    rw [writes_concat, h.writes]
    rfl
  winner := winner_enter fun j hj => h.other_not_winning hj (.inl rfl)
  done := h.done_enter rfl (by simp) (by simp)
  parked := h.parked_move (by simp)
  listening := h.listening_move (by simp)

theorem write {i : Nat} {reason : String} (h : Stands (.flagged i reason) acts s)
    (hi : s.stage i = .won reason) :
    Stands (.caused i reason) (acts ++ [.write i reason])
      ({ s with cause := some reason }.move i .written) where
  flag := h.flag
  cause := rfl
  rounds := h.rounds
  exchanges := by
    rw [exchanges_concat]
    exact (congrArg List.head? (List.append_nil _)).trans h.exchanges
  wins := by
    rw [wins_concat, h.wins]
    rfl
  writes := by
    rw [writes_concat, h.writes]
    rfl
  winner := winner_enter fun j hj => h.other_not_winning hj (.inr (by rw [hi]; rfl))
  done := h.done_enter rfl (by simp) (by simp)
  parked := h.parked_move (by simp)
  listening := h.listening_move (by simp)

theorem notify {i : Nat} {reason : String} (h : Stands (.caused i reason) acts s)
    (hi : s.stage i = .written) :
    Stands (.woken reason) (acts ++ [.notify i])
      ({ s with rounds := s.rounds + 1 }.move i (.leaving true)) where
  flag := h.flag
  cause := h.cause
  rounds := congrArg (· + 1) h.rounds
  exchanges := by
    rw [exchanges_concat]
    exact (congrArg List.head? (List.append_nil _)).trans h.exchanges
  wins := by
    rw [wins_concat, h.wins]
    rfl
  writes := by
    rw [writes_concat, h.writes]
    rfl
  winner := by
    intro j stage hstage
    constructor
    · intro hj
      rw [stage_move] at hj
      split at hj
      · rw [← hj] at hstage
        cases hstage
      · rename_i hne
        have hother := h.other_not_winning hne (.inr (by rw [hi]; rfl))
        change s.stage j = stage at hj
        rw [hj, hstage] at hother
        cases hother
    · intro hj
      cases hj
  done := fun _ _ => rfl
  parked := h.parked_move (by simp)
  listening := fun j round hj => Nat.le_succ_of_le (h.listening_move (by simp) j round hj)

/-- Whatever step is taken, the cancellation stays where it is or comes to what is next. -/
theorem step (h : Stands p acts s) {a : Act} {t : Signal} (ha : Step s a t) :
    ∃ q, p.Next q ∧ Stands q (acts ++ [a]) t := by
  cases ha with
  | win hi hflag =>
    obtain rfl := h.eq_calm hflag
    exact ⟨_, .flag _ _, h.win _ _⟩
  | write hi =>
    obtain rfl := h.eq_flagged hi
    exact ⟨_, .cause _ _, h.write hi⟩
  | notify hi =>
    obtain ⟨reason, rfl⟩ := h.eq_caused hi
    exact ⟨_, .wake _ _, h.notify hi⟩
  | call reason hi =>
    refine ⟨p, .stay p, h.quiet (by rw [hi]; rfl) rfl (.inl rfl) rfl rfl ?_ ?_ ?_ ?_⟩ <;> simp
  | lose hi hflag =>
    refine ⟨p, .stay p, h.quiet (by rw [hi]; rfl) rfl (.inr hflag) rfl rfl ?_ ?_ ?_ ?_⟩ <;> simp
  | returned hi =>
    refine ⟨p, .stay p, h.quiet (by rw [hi]; rfl) rfl (.inl rfl) rfl rfl ?_ ?_ ?_ ?_⟩
    · simp
    · intro j hj
      cases hj
      exact hi
    · simp
    · simp
  | look hi =>
    exact ⟨p, .stay p, h.look (.inl rfl)⟩
  | read hi =>
    exact ⟨p, .stay p, h.look (.inr ⟨_, rfl⟩)⟩
  | wait hi =>
    refine ⟨p, .stay p, h.quiet (by rw [hi]; rfl) rfl (.inl rfl) rfl rfl ?_ ?_ ?_ ?_⟩ <;> simp
  | check hi =>
    refine ⟨p, .stay p, h.quiet (by rw [hi]; rfl) ?_ (.inl rfl) rfl rfl ?_ ?_ ?_ ?_⟩ <;>
      cases s.flag <;> simp [Stage.isWinning]
  | listen hi =>
    refine ⟨p, .stay p, h.quiet (by rw [hi]; rfl) rfl (.inl rfl) rfl rfl ?_ ?_ ?_ ?_⟩ <;> simp
  | @recheck i round hi =>
    -- A task goes to sleep only where the flag is not set, and then nobody was woken yet.
    have hasleep : s.flag = false → round = 0 := by
      intro hflag
      have hrounds : s.rounds = 0 := by
        rw [h.rounds, h.eq_calm hflag]
        rfl
      have hround := h.listening i round hi
      omega
    refine ⟨p, .stay p, h.quiet (by rw [hi]; rfl) ?_ (.inl rfl) rfl rfl ?_ ?_ ?_ ?_⟩ <;>
      cases hflag : s.flag <;> simp [Stage.isWinning]
    exact hasleep hflag
  | wake hi _ =>
    refine ⟨p, .stay p, h.quiet (by rw [hi]; rfl) rfl (.inl rfl) rfl rfl ?_ ?_ ?_ ?_⟩ <;> simp
  | abandon hi =>
    refine ⟨p, .stay p, h.quiet (by rw [hi]; rfl) rfl (.inl rfl) rfl rfl ?_ ?_ ?_ ?_⟩ <;> simp

theorem run (h : Stands p acts s) {more : List Act} {t : Signal} (hrun : Run s more t) :
    ∃ q, Stands q (acts ++ more) t ∧
      (∀ reason, p.reason? = some reason → q.reason? = some reason) ∧
      ∀ reason, p.cause? = some reason → q.cause? = some reason := by
  induction hrun with
  | refl =>
    rw [List.append_nil]
    exact ⟨p, h, fun _ hr => hr, fun _ hc => hc⟩
  | snoc _ hstep ih =>
    obtain ⟨q, hq, hreason, hcause⟩ := ih
    obtain ⟨q', hnext, hq'⟩ := hq.step hstep
    refine ⟨q', ?_, ?_, ?_⟩
    · rwa [← List.append_assoc]
    · exact fun reason hr => hnext.reason?_eq (hreason reason hr)
    · exact fun reason hc => hnext.cause?_eq (hcause reason hc)

theorem length_le_one (o : Option String) : o.toList.length ≤ 1 := by
  cases o <;> simp

theorem flag_stays (h : Stands p acts s) (hflag : s.flag = true) {more : List Act} {t : Signal}
    (hrun : Run s more t) : t.flag = true := by
  rw [h.flag] at hflag
  obtain ⟨reason, hreason⟩ := Option.isSome_iff_exists.mp hflag
  obtain ⟨q, hq, hkept, -⟩ := h.run hrun
  rw [hq.flag, hkept reason hreason]
  rfl

theorem cause_stays (h : Stands p acts s) {reason : String} (hcause : s.cause = some reason)
    {more : List Act} {t : Signal} (hrun : Run s more t) : t.cause = some reason := by
  rw [h.cause] at hcause
  obtain ⟨q, hq, -, hkept⟩ := h.run hrun
  rw [hq.cause, hkept reason hcause]

/-- A cause is that of the task which has set the flag. -/
theorem of_cause (h : Stands p acts s) {reason : String} (hcause : s.cause = some reason) :
    Signal.wins acts = [reason] ∧ s.flag = true := by
  rw [h.cause] at hcause
  have hreason : p.reason? = some reason := by
    cases p <;> first | exact hcause | cases hcause
  constructor
  · rw [h.wins, hreason]
    rfl
  · rw [h.flag, hreason]
    rfl

end Stands

/-! ## Tasks that wait -/

def Asleep (s : Signal) (j : Nat) : Prop :=
  ∃ round, s.stage j = .parked round ∧ s.rounds ≤ round

theorem Stands.not_asleep {p : Progress} {acts : List Act} {s : Signal} (h : Stands p acts s)
    {i : Nat} (hi : Act.returned i true ∈ acts) (j : Nat) : ¬ s.Asleep j := by
  rintro ⟨round, hj, hround⟩
  have hrounds : s.rounds = 1 := h.rounds.trans (h.done i (.inr hi))
  have hzero : round = 0 := h.parked j round hj
  omega

/-- A task that was woken finds the flag set and is done with waiting. -/
theorem resumes {s : Signal} {j round : Nat} (hj : s.stage j = .parked round)
    (hasleep : ¬ s.Asleep j) (hflag : s.flag = true) :
    ∃ t, Run s [.wake j, .check j true] t ∧ t.stage j = .idle := by
  have hwoken : round < s.rounds := by
    by_contra hnot
    exact hasleep ⟨round, hj, Nat.le_of_not_lt hnot⟩
  have hwake : Step s (.wake j) (s.move j .arriving) := .wake hj hwoken
  have harriving : (s.move j .arriving).stage j = .arriving := by
    rw [stage_move, if_pos rfl]
  have hcheck : Step (s.move j .arriving) (.check j true) ((s.move j .arriving).move j .idle) := by
    have hstep := Step.check harriving
    rwa [flag_move, hflag] at hstep
  refine ⟨_, .snoc (.snoc .refl hwake) hcheck, ?_⟩
  rw [stage_move, if_pos rfl]

/-! ## The token behind the signal -/

theorem cause_foldl_cancel (reasons : List String) (t : Token) :
    (reasons.foldl Token.cancel t).cause = t.cause.or reasons.head? := by
  induction reasons generalizing t with
  | nil => exact Option.or_none.symm
  | cons reason rest ih =>
    rw [List.foldl_cons, ih, Token.cancel]
    cases t with
    | mk cause => cases cause <;> rfl

/-- The token that is cancelled by one task after the other, in the order in which they tried. -/
def tokenOf (acts : List Act) : Token := (exchanges acts).foldl Token.cancel .fresh

theorem cause_tokenOf (acts : List Act) : (tokenOf acts).cause = (exchanges acts).head? :=
  cause_foldl_cancel _ _

theorem Stands.isCancelled_tokenOf {p : Progress} {acts : List Act} {s : Signal}
    (h : Stands p acts s) : (tokenOf acts).isCancelled = s.flag := by
  rw [Token.isCancelled, cause_tokenOf, h.exchanges, h.flag]

theorem Stands.tokenOf_eq {p : Progress} {acts : List Act} {s : Signal} (h : Stands p acts s)
    (hcalm : ∀ i, (s.stage i).isWinning = false) : tokenOf acts = ⟨s.cause⟩ := by
  have hcause : p.reason? = p.cause? := by
    cases p with
    | calm => rfl
    | flagged i reason =>
      have hi : s.stage i = .won reason := (h.winner i _ rfl).mpr rfl
      have hwinning := hcalm i
      rw [hi] at hwinning
      cases hwinning
    | caused i reason => rfl
    | woken reason => rfl
  have htoken : (tokenOf acts).cause = s.cause := by
    rw [cause_tokenOf, h.exchanges, hcause, h.cause]
  rw [← htoken]

/-- However the steps of the tasks interleave, the flag stays set; the cause is written once at
most, is that of the task which has set the flag and stays; a cause is never there without the
flag; and once the task that has set the flag has returned, nobody sleeps who was not woken. To
tasks that are in no cancellation the memory looks like a token that is cancelled at once. -/
theorem run_signal {acts : List Act} {s : Signal} (h : Run fresh acts s) :
    (s.flag = true → ∀ more t, Run s more t → t.flag = true) ∧
    ((wins acts).length ≤ 1 ∧ (writes acts).length ≤ 1) ∧
    (∀ reason, s.cause = some reason → wins acts = [reason] ∧
      ∀ more t, Run s more t → t.cause = some reason) ∧
    (s.cause.isSome = true → s.flag = true) ∧
    (∀ i, Act.returned i true ∈ acts → ∀ j, ¬ s.Asleep j ∧
      ∀ round, s.stage j = .parked round →
        ∃ t, Run s [.wake j, .check j true] t ∧ t.stage j = .idle) ∧
    (tokenOf acts).isCancelled = s.flag ∧
    ((∀ i, (s.stage i).isWinning = false) → tokenOf acts = ⟨s.cause⟩) := by
  obtain ⟨p, hp, -⟩ := Stands.fresh.run h
  rw [List.nil_append] at hp
  refine ⟨fun hflag _ _ hrun => hp.flag_stays hflag hrun, ⟨?_, ?_⟩, fun reason hcause => ?_,
    fun hcause => ?_, fun i hi j => ?_, hp.isCancelled_tokenOf, hp.tokenOf_eq⟩
  · rw [hp.wins]
    exact Stands.length_le_one _
  · rw [hp.writes]
    exact Stands.length_le_one _
  · exact ⟨(hp.of_cause hcause).1, fun _ _ hrun => hp.cause_stays hcause hrun⟩
  · obtain ⟨reason, hreason⟩ := Option.isSome_iff_exists.mp hcause
    exact (hp.of_cause hreason).2
  · have hasleep : ¬ s.Asleep j := hp.not_asleep hi j
    refine ⟨hasleep, fun round hj => resumes hj hasleep ?_⟩
    have hdone : p.rounds = 1 := hp.done i (.inr hi)
    rw [hp.flag]
    cases p <;> first | rfl | cases hdone

/-- A task goes to sleep and another one cancels. -/
def sleeperActs : List Act :=
  [.wait 0, .check 0 false, .listen 0, .check 0 false, .call 1 "stop", .exchange 1 "stop" true,
    .write 1 "stop", .notify 1, .returned 1 true]

theorem run_signal_sleeper : ∃ s, Run fresh sleeperActs s ∧ s.stage 0 = .parked 0 ∧
    s.cause = some "stop" ∧ ¬ s.Asleep 0 := by
  have hrun : ∃ s, Run fresh sleeperActs s ∧ s.stage 0 = .parked 0 ∧ s.cause = some "stop" :=
    ⟨_, .snoc (.snoc (.snoc (.snoc (.snoc (.snoc (.snoc (.snoc (.snoc .refl (.wait rfl))
      (.check rfl)) (.listen rfl)) (.recheck rfl)) (.call "stop" rfl)) (.win rfl rfl))
      (.write rfl)) (.notify rfl)) (.returned rfl), rfl, rfl⟩
  obtain ⟨s, hs, hparked, hcause⟩ := hrun
  obtain ⟨-, -, -, -, hwoken, -⟩ := run_signal hs
  exact ⟨s, hs, hparked, hcause, (hwoken 1 (by decide) 0).1⟩

end Signal

end StagedTests
