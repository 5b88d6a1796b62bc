import Mathlib.Data.List.Basic
import StagedTests.Parameter.Answers
import StagedTests.Proofs.Parameter.Slot

/-!
# What is done to deferred parameters

Parameters are added, fixed, asked for and looked at, in any order and any number of times. What
comes of asking for a parameter depends on what was done to this one alone: the value fixed last
stands before the value that was given first, and this before the provider that was added last.
-/

namespace StagedTests

/-! ## Deeds -/

/-- What is done to one parameter. -/
inductive Deed (σ : Type)
  | provide (link : Option StepLink) (f : Provider σ)
  | fix (value : String)
  | ask (answer : Except ParameterError String)

namespace Deed

variable {σ : Type}

def value? : Deed σ → Option String
  | .fix value => some value
  | _ => none

def given? : Deed σ → Option String
  | .ask (.ok value) => some value
  | _ => none

def provider? : Deed σ → Option (Provider σ)
  | .provide _ f => some f
  | _ => none

def link? : Deed σ → Option StepLink
  | .provide link _ => link
  | _ => none

end Deed

section

variable {σ : Type} (d : List (Deed σ))

def lastFixed : Option String := d.reverse.findSome? Deed.value?

def firstGiven : Option String := d.findSome? Deed.given?

def lastProvider : Option (Provider σ) := d.reverse.findSome? Deed.provider?

def linksGiven : List StepLink := d.filterMap Deed.link?

variable (x : Deed σ)

theorem lastFixed_concat : lastFixed (d ++ [x]) = x.value?.or (lastFixed d) := by
  rw [lastFixed, List.reverse_concat, List.findSome?_cons]
  cases x.value? <;> rfl

theorem firstGiven_concat : firstGiven (d ++ [x]) = (firstGiven d).or x.given? := by
  rw [firstGiven, List.findSome?_append, List.findSome?_cons]
  cases x.given? <;> rfl

theorem lastProvider_concat : lastProvider (d ++ [x]) = x.provider?.or (lastProvider d) := by
  rw [lastProvider, List.reverse_concat, List.findSome?_cons]
  cases x.provider? <;> rfl

theorem linksGiven_concat : linksGiven (d ++ [x]) = linksGiven d ++ x.link?.toList := by
  rw [linksGiven, List.filterMap_append]
  cases h : x.link? <;> simp [linksGiven, h]

variable {d}

theorem lastFixed_isSome_iff : (lastFixed d).isSome ↔ ∃ value, Deed.fix value ∈ d := by
  rw [lastFixed, List.findSome?_isSome_iff]
  simp only [List.mem_reverse]
  constructor
  · rintro ⟨y, hy, hvalue⟩
    cases y with
    | fix value => exact ⟨value, hy⟩
    | provide | ask => cases hvalue
  · rintro ⟨value, hvalue⟩
    exact ⟨_, hvalue, rfl⟩

theorem lastProvider_isSome_iff :
    (lastProvider d).isSome ↔ ∃ link f, Deed.provide link f ∈ d := by
  rw [lastProvider, List.findSome?_isSome_iff]
  simp only [List.mem_reverse]
  constructor
  · rintro ⟨y, hy, hprovider⟩
    cases y with
    | provide link f => exact ⟨link, f, hy⟩
    | fix | ask => cases hprovider
  · rintro ⟨link, f, hprovide⟩
    exact ⟨_, hprovide, rfl⟩

end

namespace DeferredParameters

variable {σ : Type}

/-! ## Histories -/

inductive Operation (σ : Type)
  | add (name : String) (link : Option StepLink) (f : Provider σ)
  | addAll (t : Table (Provider σ)) (link : Option StepLink)
  | set (name value : String)
  | get (name : String)
  | has (name : String)
  | links (name : String)

def Operation.isGet : Operation σ → Bool
  | .get _ => true
  | _ => false

def Operation.isOn (name : String) : Operation σ → Bool
  | .addAll t _ => t.contains name
  | .add other _ _ | .set other _ | .get other | .has other | .links other => other = name

inductive Answer
  | done
  | value (answer : Except ParameterError String)
  | known (known : Bool)
  | links (links : List StepLink)
  deriving DecidableEq

def perform : Operation σ → DeferredParameters σ × σ → Answer × DeferredParameters σ × σ
  | .add name link f, (p, s) => (.done, p.add name link f, s)
  | .addAll t link, (p, s) => (.done, p.addAll t link, s)
  | .set name value, (p, s) => (.done, p.set name value, s)
  | .get name, (p, s) => (.value (p.get name s).1, (p.get name s).2)
  | .has name, (p, s) => (.known (p.has name), p, s)
  | .links name, (p, s) => (.links (p.links name), p, s)

structure Call (σ : Type) where
  operation : Operation σ
  answer : Answer

def performAll : List (Operation σ) → DeferredParameters σ × σ →
    List (Call σ) × DeferredParameters σ × σ
  | [], state => ([], state)
  | op :: ops, state =>
    let next := perform op state
    let further := performAll ops next.2
    (⟨op, next.1⟩ :: further.1, further.2)

/-- What a call does to the parameter of a name. -/
def Call.deed? (name : String) : Call σ → Option (Deed σ)
  | ⟨.add other link f, _⟩ => if other = name then some (.provide link f) else none
  | ⟨.addAll t link, _⟩ => (t.get? name).map (.provide link)
  | ⟨.set other value, _⟩ => if other = name then some (.fix value) else none
  | ⟨.get other, .value answer⟩ => if other = name then some (.ask answer) else none
  | _ => none

def deeds (name : String) (calls : List (Call σ)) : List (Deed σ) :=
  calls.filterMap (Call.deed? name)

/-- Operations on other parameters are no deeds. -/
theorem deeds_filter (name : String) (calls : List (Call σ)) :
    deeds name (calls.filter (·.operation.isOn name)) = deeds name calls := by
  rw [deeds, List.filterMap_filter, deeds]
  refine List.filterMap_congr fun c _ => ?_
  split
  · rfl
  · rename_i hother
    obtain ⟨op, answer⟩ := c
    cases op with
    | addAll t link =>
      have hnone : t.get? name = none := by simpa [Operation.isOn, Table.contains] using hother
      simp [Call.deed?, hnone]
    | get other => cases answer <;> simp_all [Operation.isOn, Call.deed?]
    | add | set => simp_all [Operation.isOn, Call.deed?]
    | has | links => rfl

/-- What is held of a parameter comes of what was done to it. A value that is kept matters only
where none is fixed, and a provider has given it. -/
structure Recalls (d : List (Deed σ)) (x : Slot σ) : Prop where
  fixed : x.fixed = lastFixed d
  provider : x.provider = lastProvider d
  links : x.links = linksGiven d
  kept : lastFixed d = none → x.kept = firstGiven d
  given : x.provider = none → x.kept = none

namespace Recalls

variable {d : List (Deed σ)} {x : Slot σ}

theorem nil : Recalls ([] : List (Deed σ)) .empty where
  fixed := rfl
  provider := rfl
  links := rfl
  kept := fun _ => rfl
  given := fun _ => rfl

theorem provide (h : Recalls d x) (link : Option StepLink) (f : Provider σ) :
    Recalls (d ++ [.provide link f]) (x.provide link f) where
  fixed := by
    rw [lastFixed_concat]
    exact h.fixed
  provider := by
    rw [lastProvider_concat]
    rfl
  links := by
    rw [linksGiven_concat, ← h.links]
    rfl
  kept := by
    rw [lastFixed_concat, firstGiven_concat]
    exact fun hnone => (h.kept hnone).trans (Option.or_none).symm
  given := fun hnone => nomatch hnone

theorem fix (h : Recalls d x) (value : String) :
    Recalls (d ++ [.fix value]) { x with fixed := some value } where
  fixed := by
    rw [lastFixed_concat]
    rfl
  provider := by
    rw [lastProvider_concat]
    exact h.provider
  links := by
    rw [linksGiven_concat, h.links]
    exact (List.append_nil _).symm
  kept := by
    rw [lastFixed_concat]
    exact fun hnone => nomatch hnone
  given := h.given

theorem ask (h : Recalls d x) (answer : Except ParameterError String) {kept : Option String}
    (hkept : lastFixed d = none →
      kept = (firstGiven d).or (Deed.ask answer : Deed σ).given?)
    (hgiven : x.provider = none → kept = none) :
    Recalls (d ++ [.ask answer]) { x with kept := kept } where
  fixed := by
    rw [lastFixed_concat]
    exact h.fixed
  provider := by
    rw [lastProvider_concat]
    exact h.provider
  links := by
    rw [linksGiven_concat, h.links]
    exact (List.append_nil _).symm
  kept := by
    rw [lastFixed_concat, firstGiven_concat]
    exact hkept
  given := hgiven

variable {p : DeferredParameters σ} {name : String}

theorem get (h : Recalls d (p.slot name)) (s : σ) :
    Recalls (d ++ [.ask (p.get name s).1]) ((p.get name s).2.1.slot name) := by
  rcases p.get_cases name s with ⟨value, hvalue, heq⟩ | ⟨-, -, heq⟩ |
    ⟨-, f, -, reason, after, -, heq⟩ | ⟨⟨hset, hkept⟩, f, hf, value, after, -, heq⟩
  · rw [heq]
    refine h.ask _ (fun hnone => ?_) h.given
    -- With nothing fixed the answer is the value that is kept, which is the first one given.
    have hfirst : firstGiven d = some value := by
      rcases hvalue with hvalue | ⟨-, hvalue⟩
      · cases hvalue.symm.trans (h.fixed.trans hnone)
      · exact (h.kept hnone).symm.trans hvalue
    rw [hfirst]
    exact (h.kept hnone).trans hfirst
  · rw [heq]
    exact h.ask _ (fun hnone => (h.kept hnone).trans Option.or_none.symm) h.given
  · rw [heq]
    exact h.ask _ (fun hnone => (h.kept hnone).trans Option.or_none.symm) h.given
  · have hslot : ({ p with resolved := p.resolved.insert name value } :
        DeferredParameters σ).slot name = { p.slot name with kept := some value } := by
      simp [slot]
    rw [heq, hslot]
    refine h.ask _ (fun hnone => ?_) fun hnone => ?_
    · rw [← h.kept hnone]
      exact (congrArg (·.or (some value)) hkept).symm
    · exact absurd (hf.symm.trans hnone) (Option.some_ne_none f)

theorem perform (h : Recalls d (p.slot name)) (op : Operation σ) (s : σ) :
    Recalls (d ++ (Call.deed? name ⟨op, (perform op (p, s)).1⟩).toList)
      ((DeferredParameters.perform op (p, s)).2.1.slot name) := by
  cases op with
  | add other link f =>
    change Recalls _ ((p.add other link f).slot name)
    rw [slot_add]
    by_cases hname : other = name
    · simpa [Call.deed?, hname] using h.provide link f
    · simpa [Call.deed?, hname] using h
  | addAll t link =>
    change Recalls _ ((p.addAll t link).slot name)
    rw [slot_addAll]
    cases hf : t.get? name with
    | some f => simpa [Call.deed?, hf] using h.provide link f
    | none => simpa [Call.deed?, hf] using h
  | set other value =>
    change Recalls _ ((p.set other value).slot name)
    rw [slot_set]
    by_cases hname : other = name
    · simpa [Call.deed?, hname] using h.fix value
    · simpa [Call.deed?, hname] using h
  | get other =>
    change Recalls _ ((p.get other s).2.1.slot name)
    by_cases hname : other = name
    · subst hname
      simpa [Call.deed?, DeferredParameters.perform] using h.get s
    · rw [p.slot_get_of_ne name hname s]
      simpa [Call.deed?, DeferredParameters.perform, hname] using h
  | has | links =>
    change Recalls (d ++ []) (p.slot name)
    rwa [List.append_nil]

theorem performAll (h : Recalls d (p.slot name)) (ops : List (Operation σ)) (s : σ) :
    Recalls (d ++ deeds name (performAll ops (p, s)).1)
      ((DeferredParameters.performAll ops (p, s)).2.1.slot name) := by
  induction ops generalizing d p s with
  | nil => simpa [DeferredParameters.performAll, deeds] using h
  | cons op ops ih =>
    have hrest := ih (h.perform op s) (DeferredParameters.perform op (p, s)).2.2
    rw [List.append_assoc] at hrest
    have hdeeds : deeds name (DeferredParameters.performAll (op :: ops) (p, s)).1 =
        (Call.deed? name ⟨op, (DeferredParameters.perform op (p, s)).1⟩).toList ++
          deeds name (DeferredParameters.performAll ops (DeferredParameters.perform op (p, s)).2).1 := by
      rw [deeds, DeferredParameters.performAll, List.filterMap_cons]
      cases Call.deed? name ⟨op, (DeferredParameters.perform op (p, s)).1⟩ <;> rfl
    rwa [hdeeds]

end Recalls

theorem performAll_recalls (ops : List (Operation σ)) (s : σ) (name : String) :
    Recalls (deeds name (performAll ops (empty, s)).1)
      ((performAll ops (empty, s)).2.1.slot name) := by
  have hempty : Recalls [] ((empty : DeferredParameters σ).slot name) := .nil
  exact hempty.performAll ops s

/-! ## What is answered -/

/-- What comes of asking for a parameter, whatever the state of the providers. The state stays as it
was where none of them is asked, and is what a single call of the provider makes of it otherwise. -/
structure Answers (d : List (Deed σ)) (p : DeferredParameters σ) (name : String) : Prop where
  fixed : ∀ value, lastFixed d = some value → ∀ s, p.get name s = (.ok value, p, s)
  kept : lastFixed d = none → ∀ value, firstGiven d = some value →
    ∀ s, p.get name s = (.ok value, p, s)
  asked : lastFixed d = none → firstGiven d = none → ∀ f, lastProvider d = some f →
    ∀ s, (p.get name s).1 = (f s).1.mapError (.failed name) ∧ (p.get name s).2.2 = (f s).2
  /-- A failure leaves the parameters as they are, so the provider is asked again. -/
  failed : ∀ s reason, (p.get name s).1 = .error (.failed name reason) → (p.get name s).2.1 = p
  unknown : p.has name = false → ∀ s, p.get name s = (.error (.unknown name), p, s)
  known : p.has name = true → ∀ s, (p.get name s).1 ≠ .error (.unknown name)
  has_iff : p.has name = true ↔
    (∃ value, Deed.fix value ∈ d) ∨ ∃ link f, Deed.provide link f ∈ d

namespace Recalls

variable {d : List (Deed σ)} {p : DeferredParameters σ} {name : String}

theorem has_iff (h : Recalls d (p.slot name)) : p.has name = true ↔
    (∃ value, Deed.fix value ∈ d) ∨ ∃ link f, Deed.provide link f ∈ d := by
  rw [← lastFixed_isSome_iff, ← lastProvider_isSome_iff, ← h.fixed, ← h.provider, has,
    Bool.or_eq_true]
  rfl

theorem answers (h : Recalls d (p.slot name)) : Answers d p name where
  fixed value hvalue s := by
    have hset : p.values.get? name = some value := h.fixed.trans hvalue
    rw [DeferredParameters.get, hset]
  kept hnone value hvalue s := by
    have hset : p.values.get? name = none := h.fixed.trans hnone
    have hkept : p.resolved.get? name = some value := (h.kept hnone).trans hvalue
    rw [DeferredParameters.get, hset, hkept]
  asked hnone hgiven f hf s := by
    have hset : p.values.get? name = none := h.fixed.trans hnone
    have hkept : p.resolved.get? name = none := (h.kept hnone).trans hgiven
    have hprovider : p.providers.get? name = some f := h.provider.trans hf
    simp only [DeferredParameters.get, hset, hkept, hprovider]
    split <;> rename_i heq <;> rw [heq] <;> exact ⟨rfl, rfl⟩
  failed s reason hfailed := by
    rcases p.get_cases name s with ⟨_, -, heq⟩ | ⟨-, -, heq⟩ | ⟨-, _, -, _, _, -, heq⟩ |
      ⟨-, _, -, _, _, -, heq⟩
    · rw [heq]
    · rw [heq]
    · rw [heq]
    · rw [heq] at hfailed
      cases hfailed
  unknown hhas s := by
    rw [has, Bool.or_eq_false_iff, Table.contains, Table.contains, Option.isSome_eq_false_iff,
      Option.isSome_eq_false_iff, Option.isNone_iff_eq_none, Option.isNone_iff_eq_none] at hhas
    obtain ⟨hset, hprovider⟩ := hhas
    have hkept : p.resolved.get? name = none := h.given hprovider
    rw [DeferredParameters.get, hset, hkept, hprovider]
  known hhas s hunknown := by
    rcases p.get_cases name s with ⟨_, -, heq⟩ | ⟨⟨hset, -⟩, hprovider, heq⟩ |
      ⟨-, _, -, _, _, -, heq⟩ | ⟨-, _, -, _, _, -, heq⟩
    · rw [heq] at hunknown
      cases hunknown
    · rw [has, Table.contains, Table.contains, hset, hprovider] at hhas
      cases hhas
    · rw [heq] at hunknown
      cases hunknown
    · rw [heq] at hunknown
      cases hunknown
  has_iff := h.has_iff

theorem links_eq (h : Recalls d (p.slot name)) :
    p.links name = if (lastFixed d).isSome then [] else linksGiven d := by
  rw [← h.fixed, ← h.links]
  rfl

end Recalls

/-- What comes of asking for a parameter is settled by what was done to it. -/
theorem Answers.settled {d : List (Deed σ)} {p q : DeferredParameters σ} {name : String}
    (hp : Answers d p name) (hq : Answers d q name) :
    (∀ s, (q.get name s).1 = (p.get name s).1 ∧ (q.get name s).2.2 = (p.get name s).2.2) ∧
      q.has name = p.has name := by
  have hhas : q.has name = p.has name := by
    rw [Bool.eq_iff_iff, hp.has_iff, hq.has_iff]
  refine ⟨fun s => ?_, hhas⟩
  cases hfixed : lastFixed d with
  | some value =>
    rw [hp.fixed value hfixed, hq.fixed value hfixed]
    exact ⟨rfl, rfl⟩
  | none =>
    cases hgiven : firstGiven d with
    | some value =>
      rw [hp.kept hfixed value hgiven, hq.kept hfixed value hgiven]
      exact ⟨rfl, rfl⟩
    | none =>
      cases hprovider : lastProvider d with
      | some f =>
        obtain ⟨hanswer, hstate⟩ := hp.asked hfixed hgiven f hprovider s
        obtain ⟨hanswer', hstate'⟩ := hq.asked hfixed hgiven f hprovider s
        exact ⟨hanswer'.trans hanswer.symm, hstate'.trans hstate.symm⟩
      | none =>
        have hunknown : p.has name = false := by
          rw [Bool.eq_false_iff, ne_eq, hp.has_iff, ← lastFixed_isSome_iff,
            ← lastProvider_isSome_iff, hfixed, hprovider]
          simp
        rw [hp.unknown hunknown, hq.unknown (hhas.trans hunknown)]
        exact ⟨rfl, rfl⟩

/-- Whatever was done to parameters, what comes of asking for one is told by what was done to this
one: operations on others have no part in it, and of two histories that agree in it both answer the
same. -/
theorem performAll_answers (ops : List (Operation σ)) (s : σ) (name : String) :
    let d := deeds name (performAll ops (empty, s)).1
    let p := (performAll ops (empty, s)).2.1
    Answers d p name ∧
      deeds name ((performAll ops (empty, s)).1.filter (·.operation.isOn name)) = d ∧
      ∀ (ops' : List (Operation σ)) (s' : σ), deeds name (performAll ops' (empty, s')).1 = d →
        let q := (performAll ops' (empty, s')).2.1
        (∀ t, (q.get name t).1 = (p.get name t).1 ∧ (q.get name t).2.2 = (p.get name t).2.2) ∧
          q.has name = p.has name := by
  intro d p
  have hanswers : Answers d p name := (performAll_recalls ops s name).answers
  refine ⟨hanswers, deeds_filter name _, fun ops' s' hagree => hanswers.settled ?_⟩
  rw [← hagree]
  exact (performAll_recalls ops' s' name).answers

/-- A failure is retried, the first value stays though another provider is added, and a value that
is fixed stands before it. -/
example :
    let ops : List (Operation ProviderAnswers) :=
      [.get "X", .add "X" none (ProviderAnswers.provider 0), .get "X", .get "X",
        .add "X" none (ProviderAnswers.provider 1), .get "X", .set "X" "c", .get "X"]
    let s : ProviderAnswers := ⟨[[.error "not ready", .ok "a"], [.ok "b"]], 0⟩
    (performAll ops (empty, s)).1.map (·.answer) =
      [.value (.error (.unknown "X")), .done, .value (.error (.failed "X" "not ready")),
        .value (.ok "a"), .done, .value (.ok "a"), .done, .value (.ok "c")] ∧
      (performAll ops (empty, s)).2.2.calls = 2 := by
  decide

end DeferredParameters

end StagedTests
