import StagedTests.Proofs.Json.Record

/-!
# What decoding does not see

Places only say where a problem is noticed. A decoder accepts a source if it accepts the same source
without its places, and reads the same from both. For each way of building a decoder there is a rule
that says so.
-/

namespace StagedTests.Json

variable {α β : Type}

theorem toOption_bind {ε : Type} (r : Except ε α) (f : α → Except ε β) :
    (r >>= f).toOption = r.toOption.bind fun x => (f x).toOption := by
  cases r <;> rfl

theorem toOption_map {ε : Type} (r : Except ε α) (f : α → β) :
    (r.map f).toOption = r.toOption.map f := by
  cases r <;> rfl

theorem toOption_eq_some_iff {ε : Type} {r : Except ε α} {x : α} :
    r.toOption = some x ↔ r = .ok x := by
  cases r <;> simp [Except.toOption]

theorem toOption_orFault (e : Option (Placed Fault)) :
    (orFault e).toOption = if e.isNone then some () else none := by
  cases e <;> rfl

namespace Source

def unplaced (f : Placed Fault) : Placed Fault := ⟨f.what, 0⟩

mutual

/-- The source without the places of the text that it comes from. -/
def bare : Source → Source
  | .null _ => .null {}
  | .bool _ b => .bool {} b
  | .number _ n => .number {} n
  | .string _ s => .string {} s
  | .array _ _ items e => .array {} 0 (bareItems items) (e.map unplaced)
  | .object _ _ members e => .object {} 0 (bareMembers members) (e.map unplaced)
  | .unreadable _ o f g => .unreadable {} o (unplaced f) (g.map unplaced)

def bareItems : List Source → List Source
  | [] => []
  | s :: rest => s.bare :: bareItems rest

def bareMembers : List (Source × Source) → List (Source × Source)
  | [] => []
  | (name, s) :: rest => (name.bare, s.bare) :: bareMembers rest

end

theorem bareItems_eq (items : List Source) : bareItems items = items.map bare := by
  induction items with
  | nil => rfl
  | cons s rest ih => rw [bareItems, ih, List.map_cons]

theorem isSome_skipName_bare (s : Source) : s.bare.skipName.isSome = s.skipName.isSome := by
  cases s with
  | unreadable p o f g => cases o <;> simp [bare, skipName]
  | _ => rfl

mutual

theorem isSome_skip_bare : ∀ s : Source, s.bare.skip.isSome = s.skip.isSome
  | .null _ | .bool _ _ | .number _ _ | .string _ _ => rfl
  | .array _ _ items e => by simp [bare, skip, Option.isSome_or, isSome_skipItems_bare items]
  | .object _ _ members e => by simp [bare, skip, Option.isSome_or, isSome_skipMembers_bare members]
  | .unreadable _ _ _ g => by simp [bare, skip]

theorem isSome_skipItems_bare : ∀ items : List Source,
    (skipItems (bareItems items)).isSome = (skipItems items).isSome
  | [] => rfl
  | s :: rest => by
    simp [bareItems, skipItems, Option.isSome_or, isSome_skip_bare s, isSome_skipItems_bare rest]

theorem isSome_skipMembers_bare : ∀ members : List (Source × Source),
    (skipMembers (bareMembers members)).isSome = (skipMembers members).isSome
  | [] => rfl
  | (name, s) :: rest => by
    simp [bareMembers, skipMembers, Option.isSome_or, isSome_skipName_bare name, isSome_skip_bare s,
      isSome_skipMembers_bare rest]

end

end Source

namespace Decoder

/-- What is read does not depend on places. -/
def Blind (d : Decoder α) : Prop :=
  ∀ origin s, (d origin s.bare).toOption = (d origin s).toOption

variable {d : Decoder α}

theorem Blind.map (h : d.Blind) (f : α → β) : (d.map f).Blind := by
  intro origin s
  rw [Decoder.map, Decoder.map, toOption_map, toOption_map, h origin s]

theorem string_blind : string.Blind := by
  intro origin s
  cases s <;> rfl

theorem path_blind : path.Blind := by
  intro origin s
  cases s <;> rfl

theorem whole_blind (name : String) (low high : Int) : (whole name low high).Blind := by
  intro origin s
  cases s with
  | number p n =>
    cases n with
    | whole i =>
      simp only [Source.bare, whole]
      split <;> rfl
    | real x => rfl
  | _ => rfl

theorem unsigned64_blind : unsigned64.Blind := (whole_blind _ _ _).map _

theorem Blind.nullable (h : d.Blind) : d.nullable.Blind := by
  intro origin s
  cases s with
  | null p => rfl
  | unreadable p o f g =>
    cases o with
    | null => rfl
    | bare => exact h.map some origin (.unreadable p .bare f g)
    | other => exact h.map some origin (.unreadable p .other f g)
  | _ => exact h.map some origin _

theorem Blind.elements (h : d.Blind) (origin : Origin) (items : List Source) :
    (elements d origin (Source.bareItems items)).toOption = (elements d origin items).toOption := by
  induction items with
  | nil => rfl
  | cons s rest ih =>
    simp only [Source.bareItems, Decoder.elements, toOption_bind, h origin s, ih]

theorem Blind.list (h : d.Blind) : (list d).Blind := by
  intro origin s
  cases s with
  | array p inner items e =>
    simp only [Source.bare, Decoder.list, toOption_bind, h.elements, toOption_orFault,
      Option.isNone_map]
  | _ => rfl

theorem textSet_blind : textSet.Blind := string_blind.list.map _

theorem Blind.entries (h : d.Blind) (origin : Origin) (members : List (Source × Source)) :
    (entries d origin (Source.bareMembers members)).toOption =
      (entries d origin members).toOption := by
  induction members with
  | nil => rfl
  | cons m rest ih =>
    obtain ⟨name, s⟩ := m
    cases name with
    | string p k =>
      simp only [Source.bareMembers, Source.bare, Decoder.entries, toOption_bind, h origin s, ih]
    | _ => rfl

theorem Blind.table (h : d.Blind) : (table d).Blind := by
  intro origin s
  cases s with
  | object p inner members e =>
    simp only [Source.bare, Decoder.table, toOption_bind, h.entries, toOption_orFault,
      Option.isNone_map]
  | _ => rfl

end Decoder

/-! ## Records -/

namespace Fields

def bareFound (found : List (String × Source)) : List (String × Source) :=
  found.map fun e => (e.1, e.2.bare)

structure Blind (fs : Fields α) : Prop where
  check : ∀ f ∈ fs.known, f.check.Blind
  build : ∀ origin stop stop' find,
    (fs.build origin stop fun name => (find name).map Source.bare).toOption =
      (fs.build origin stop' find).toOption

theorem nil_blind (x : α) : (nil x).Blind where
  check := fun _ h => nomatch h
  build := fun _ _ _ _ => rfl

theorem Blind.andThen {fs : Fields (α → β)} (h : fs.Blind) {d : Decoder α} (hd : d.Blind)
    (name : String) (omissible : Bool) (missing : Except Problem α) :
    (fs.andThen name omissible d missing).Blind where
  check := by
    intro f hf
    rcases List.mem_append.mp hf with hf | hf
    · exact h.check f hf
    · rw [List.mem_singleton.mp hf]
      exact hd.map fun _ => ()
  build := by
    intro origin stop stop' find
    simp only [Fields.andThen, toOption_bind, h.build origin stop stop' find]
    cases find name with
    | some s => simp only [Option.map_some, toOption_map, hd origin s]
    | none => cases missing <;> rfl

theorem find?_check_blind {fs : Fields α} (h : fs.Blind) {k : String} {f : Field}
    (hf : fs.find? k = some f) : f.check.Blind :=
  h.check f (List.mem_of_find?_eq_some hf)

theorem any_bareFound (found : List (String × Source)) (k : String) :
    (bareFound found).any (fun e => e.1 = k) = found.any fun e => e.1 = k := by
  simp [bareFound, List.any_map, Function.comp_def]

theorem lookUp_bareFound (found : List (String × Source)) (name : String) :
    lookUp (bareFound found) name = (lookUp found name).map Source.bare := by
  simp [lookUp, bareFound, List.find?_map, Function.comp_def]

theorem Blind.collect {fs : Fields α} (h : fs.Blind) (origin : Origin)
    (members : List (Source × Source)) (found : List (String × Source)) :
    (fs.collect origin (Source.bareMembers members) (bareFound found)).toOption =
      (fs.collect origin members found).toOption.map bareFound := by
  induction members generalizing found with
  | nil => rfl
  | cons m rest ih =>
    obtain ⟨name, s⟩ := m
    cases name with
    | string p k =>
      simp only [Source.bareMembers, Source.bare, Fields.collect]
      cases hf : fs.find? k with
      | none =>
        have hskip : s.bare.skip.isNone = s.skip.isNone := by
          rw [← Option.not_isSome, ← Option.not_isSome, Source.isSome_skip_bare]
        simp only [toOption_bind, toOption_orFault, hskip, ih]
        cases s.skip <;> rfl
      | some f =>
        simp only [any_bareFound]
        split
        · rfl
        · have hrest := ih (found ++ [(k, s)])
          rw [bareFound, List.map_append] at hrest
          simp only [toOption_bind, find?_check_blind h hf origin s]
          cases (f.check origin s).toOption with
          | none => rfl
          | some _ => exact hrest
    | _ => rfl

theorem Blind.ofMembers {fs : Fields α} (h : fs.Blind) (origin : Origin) (stop stop' : Nat)
    (members : List (Source × Source)) (e : Option (Placed Fault)) :
    (fs.ofMembers origin stop (Source.bareMembers members) (e.map Source.unplaced)).toOption =
      (fs.ofMembers origin stop' members e).toOption := by
  have hcollect := h.collect origin members []
  simp only [Fields.ofMembers, toOption_bind, toOption_orFault, Option.isNone_map]
  change (fs.collect origin (Source.bareMembers members) (bareFound [])).toOption.bind _ = _
  rw [hcollect]
  cases (fs.collect origin members []).toOption with
  | none => rfl
  | some found =>
    cases e with
    | some f => rfl
    | none =>
      have hbuild := h.build origin stop stop' (lookUp found)
      rw [← funext (lookUp_bareFound found)] at hbuild
      exact hbuild

def bareAssigned (x : List (String × Source) × List Field × List Source) :
    List (String × Source) × List Field × List Source :=
  (bareFound x.1, x.2.1, Source.bareItems x.2.2)

theorem assign_blind (origin : Origin) {fields : List Field} (h : ∀ f ∈ fields, f.check.Blind)
    (items : List Source) :
    (assign origin fields (Source.bareItems items)).toOption =
      (assign origin fields items).toOption.map bareAssigned := by
  induction fields generalizing items with
  | nil => cases items <;> rfl
  | cons f fields ih =>
    obtain ⟨hf, hfields⟩ := List.forall_mem_cons.mp h
    cases items with
    | nil => rfl
    | cons s items =>
      simp only [Source.bareItems, assign, toOption_bind, hf origin s, ih hfields items]
      cases (f.check origin s).toOption with
      | none => rfl
      | some _ => cases (assign origin fields items).toOption <;> rfl

theorem Blind.ofItems {fs : Fields α} (h : fs.Blind) (what : String) (origin : Origin)
    (stop stop' : Nat) (items : List Source) (e : Option (Placed Fault)) :
    (fs.ofItems what origin stop (Source.bareItems items) (e.map Source.unplaced)).toOption =
      (fs.ofItems what origin stop' items e).toOption := by
  simp only [Fields.ofItems, toOption_bind, assign_blind origin h.check]
  cases (assign origin fs.known items).toOption with
  | none => rfl
  | some x =>
    obtain ⟨found, left, rest⟩ := x
    have hlength : (Source.bareItems items).length = items.length := by
      rw [Source.bareItems_eq, List.length_map]
    simp only [Option.map_some, Option.bind_some, bareAssigned, hlength]
    cases rest with
    | cons s rest => rfl
    | nil =>
      simp only [Source.bareItems, toOption_bind, toOption_orFault, Option.isNone_map]
      cases firstNeeded left items.length with
      | some i => cases e <;> rfl
      | none =>
        have hbuild := h.build origin stop stop' (lookUp found)
        rw [← funext (lookUp_bareFound found)] at hbuild
        simp only [hbuild]

theorem Blind.decoder {fs : Fields α} (h : fs.Blind) (what : String) :
    (fs.decoder what).Blind := by
  intro origin s
  cases s with
  | object p inner members e => exact h.ofMembers origin _ _ members e
  | array p inner items e => exact h.ofItems what origin _ _ items e
  | _ => rfl

end Fields

end StagedTests.Json
