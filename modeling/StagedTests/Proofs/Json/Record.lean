import Mathlib.Data.List.Forall2
import StagedTests.Proofs.Json.Decoding

/-!
# What records and tables are read from

A record that is read has taken each field from the first member of its name, or from the element in
its place. A table that is read has its entries from the last members of their names. Nothing here
is about texts that were written: what is read may have any members besides, in any order.
-/

namespace StagedTests.Json

variable {α β : Type}

namespace Source

def isName (name : String) : Source → Bool
  | .string _ k => k = name
  | _ => false

def first? (name : String) (members : List (Source × Source)) : Option Source :=
  (members.find? fun m => m.1.isName name).map (·.2)

/-- Where a record has a field from: the first member of its name, or the element in its place. -/
def field? (place : Nat) (name : String) : Source → Option Source
  | .object _ _ members _ => first? name members
  | .array _ _ items _ => items[place]?
  | _ => none

/-- Where a table has an entry from: the last member of its name. -/
def named? (name : String) : Source → Option Source
  | .object _ _ members _ => first? name members.reverse
  | _ => none

theorem first?_cons (name k : String) (p : Span) (s : Source) (members : List (Source × Source)) :
    first? name ((.string p k, s) :: members) = if k = name then some s else first? name members := by
  by_cases h : k = name <;> simp [first?, isName, h]

end Source

namespace Fields

theorem lookUp_concat (found : List (String × Source)) (k name : String) (s : Source) :
    lookUp (found ++ [(k, s)]) name = (lookUp found name).or (if k = name then some s else none) := by
  unfold lookUp
  rw [List.find?_append]
  cases found.find? (fun e => e.1 = name) with
  | some e => rfl
  | none => by_cases h : k = name <;> simp [h]

theorem lookUp_eq_none {found : List (String × Source)} {name : String}
    (h : found.any (fun e => e.1 = name) = false) : lookUp found name = none := by
  have hfind : found.find? (fun e => e.1 = name) = none := by
    rw [List.find?_eq_none]
    exact List.any_eq_false.mp h
  rw [lookUp, hfind]
  rfl

/-- A known name that comes twice is refused, so what was found first is all that is found. -/
theorem collect_lookUp {fs : Fields α} {origin : Origin} {members : List (Source × Source)}
    {found sources : List (String × Source)} (h : fs.collect origin members found = .ok sources)
    {name : String} (hname : (fs.find? name).isSome) :
    lookUp sources name = (lookUp found name).or (Source.first? name members) := by
  induction members generalizing found with
  | nil =>
    obtain rfl := Except.ok.inj h
    exact (Option.or_none).symm
  | cons m members ih =>
    obtain ⟨key, s⟩ := m
    cases key with
    | string p k =>
      rw [collect] at h
      rw [Source.first?_cons]
      split at h
      · next hunknown =>
        obtain ⟨-, -, h⟩ := bind_ok h
        have hne : k ≠ name := by
          rintro rfl
          rw [hunknown] at hname
          cases hname
        rw [if_neg hne]
        exact ih h
      · split at h
        · cases h
        · next hnew =>
          obtain ⟨-, -, h⟩ := bind_ok h
          rw [ih h, lookUp_concat, Option.or_assoc]
          by_cases hk : k = name
          · subst hk
            rw [lookUp_eq_none (Bool.eq_false_iff.mpr hnew), if_pos rfl, if_pos rfl]
            rfl
          · rw [if_neg hk, if_neg hk, Option.none_or]
    | _ => cases h

theorem assign_lookUp {origin : Origin} {fields left : List Field} {items rest : List Source}
    {sources : List (String × Source)} (h : assign origin fields items = .ok (sources, left, rest))
    (hnodup : (fields.map Field.name).Nodup) {i : Nat} {f : Field} (hf : fields[i]? = some f) :
    lookUp sources f.name = items[i]? := by
  induction fields generalizing items sources i with
  | nil => cases hf
  | cons g fields ih =>
    obtain ⟨hg, hfields⟩ := List.nodup_cons.mp hnodup
    cases items with
    | nil =>
      cases h
      rfl
    | cons s items =>
      obtain ⟨-, -, h⟩ := bind_ok h
      obtain ⟨⟨sources', left', rest'⟩, hrest, h⟩ := bind_ok h
      cases h
      cases i with
      | zero =>
        obtain rfl := Option.some.inj hf
        simp [lookUp]
      | succ i =>
        have hmem : f.name ∈ fields.map Field.name :=
          List.mem_map.mpr ⟨f, List.mem_of_getElem? hf, rfl⟩
        have hne : g.name ≠ f.name := fun heq => hg (heq ▸ hmem)
        have hlater := ih hrest hfields hf
        unfold lookUp at hlater ⊢
        rw [List.find?_cons_of_neg (by simpa using hne), hlater]
        rfl

theorem find?_isSome {fs : Fields α} {f : Field} (h : f ∈ fs.known) : (fs.find? f.name).isSome := by
  rw [find?, List.find?_isSome]
  exact ⟨f, h, by simp⟩

/-- A record that is read was built from its fields' sources. -/
theorem build_of_decoder {fs : Fields α} {what : String} {origin : Origin} {s : Source} {x : α}
    (h : fs.decoder what origin s = .ok x) (hnodup : (fs.known.map Field.name).Nodup) :
    ∃ stop find, fs.build origin stop find = .ok x ∧
      ∀ i f, fs.known[i]? = some f → find f.name = s.field? i f.name := by
  cases s with
  | object p inner members e =>
    obtain ⟨sources, hsources, h⟩ := bind_ok h
    obtain ⟨-, -, h⟩ := bind_ok h
    refine ⟨_, _, h, ?_⟩
    intro i f hf
    rw [collect_lookUp hsources (find?_isSome (List.mem_of_getElem? hf))]
    exact Option.none_or
  | array p inner items e =>
    obtain ⟨⟨sources, left, rest⟩, hassign, h⟩ := bind_ok h
    cases rest with
    | nil =>
      dsimp only at h
      split at h
      · obtain ⟨-, -, h⟩ := bind_ok h
        exact ⟨_, _, h, fun i f hf => assign_lookUp hassign hnodup hf⟩
      · obtain ⟨-, -, h⟩ := bind_ok h
        cases h
    | cons s rest => cases h
  | _ => exact absurd h (mistyped_ne_ok what _ x)

/-- The value of a field is what its source is read as, or what stands for a missing one. -/
def Took (d : Decoder α) (missing : Except Problem α) (origin : Origin) :
    Option Source → α → Prop
  | some s, x => d origin s = .ok x
  | none, x => missing = .ok x

theorem andThen_build {fs : Fields (α → β)} {name : String} {omissible : Bool} {d : Decoder α}
    {missing : Except Problem α} {origin : Origin} {stop : Nat} {find : String → Option Source}
    {y : β} (h : (fs.andThen name omissible d missing).build origin stop find = .ok y) :
    ∃ f x, fs.build origin stop find = .ok f ∧ Took d missing origin (find name) x ∧ y = f x := by
  obtain ⟨f, hf, h⟩ := bind_ok h
  cases hfind : find name with
  | some s =>
    rw [hfind] at h
    obtain ⟨x, hx, rfl⟩ := map_ok h
    exact ⟨f, x, hf, hx, rfl⟩
  | none =>
    rw [hfind] at h
    cases hmissing : missing with
    | error p =>
      rw [hmissing] at h
      cases h
    | ok x =>
      rw [hmissing] at h
      obtain rfl := Except.ok.inj h
      exact ⟨f, x, hf, rfl, rfl⟩

end Fields

namespace Decoder

variable {d : Decoder α} {origin : Origin}

def IsEntry (d : Decoder α) (origin : Origin) (m : Source × Source) (e : String × α) : Prop :=
  (∃ p, m.1 = .string p e.1) ∧ d origin m.2 = .ok e.2

theorem entries_forall₂ {members : List (Source × Source)} {xs : List (String × α)}
    (h : entries d origin members = .ok xs) : List.Forall₂ (IsEntry d origin) members xs := by
  induction members generalizing xs with
  | nil =>
    obtain rfl := Except.ok.inj h
    exact .nil
  | cons m members ih =>
    obtain ⟨key, s⟩ := m
    cases key with
    | string p k =>
      obtain ⟨x, hx, h⟩ := bind_ok h
      obtain ⟨xs', hxs, h⟩ := bind_ok h
      obtain rfl := Except.ok.inj h
      exact .cons ⟨⟨p, rfl⟩, hx⟩ (ih hxs)
    | _ => cases h

theorem first?_rel {members : List (Source × Source)} {xs : List (String × α)}
    (h : List.Forall₂ (IsEntry d origin) members xs) (name : String) :
    Option.Rel (fun s x => d origin s = .ok x) (Source.first? name members)
      ((xs.find? fun e => e.1 = name).map (·.2)) := by
  induction h with
  | nil => exact .none
  | @cons m e members xs hentry hrest ih =>
    obtain ⟨key, s⟩ := m
    obtain ⟨⟨p, rfl⟩, hread⟩ := hentry
    rw [Source.first?_cons]
    by_cases hname : e.1 = name
    · rw [if_pos hname, List.find?_cons_of_pos (by simpa using hname)]
      exact .some hread
    · rw [if_neg hname, List.find?_cons_of_neg (by simpa using hname)]
      exact ih

/-- The entries of a table are what the last members of their names are read as. -/
theorem table_get? {s : Source} {t : Table α} (h : table d origin s = .ok t) (name : String) :
    Option.Rel (fun source x => d origin source = .ok x) (s.named? name) (t.get? name) := by
  cases s with
  | object p inner members e =>
    obtain ⟨xs, hxs, h⟩ := bind_ok h
    obtain ⟨-, -, h⟩ := bind_ok h
    obtain rfl := Except.ok.inj h
    have hreverse := List.forall₂_reverse_iff.mpr (entries_forall₂ hxs)
    rw [Table.get?_ofList]
    exact first?_rel hreverse name
  | _ => exact absurd h (mistyped_ne_ok _ _ t)

end Decoder

end StagedTests.Json
