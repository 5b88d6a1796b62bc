import StagedTests.Proofs.Json.Blind

/-!
# What is read can be skipped

A decoder takes notice of every part of a source, also of those that it has no use for: what it
accepts could as well have been skipped. For each way of building a decoder there is a rule that
says so. So the members of an object that is accepted can be told, whatever else the object holds.
-/

namespace StagedTests.Json

variable {α β : Type}

theorem orFault_ok_iff {e : Option (Placed Fault)} {u : Unit} : orFault e = .ok u ↔ e = none := by
  cases e <;> simp [orFault, blame, complain]

/-- The members of an object without places, if their names can be read and their values skipped. -/
def namedMembers? : List (Source × Source) → Option (List (String × Source))
  | [] => some []
  | (.string _ k, s) :: rest =>
    if s.skip.isNone then (namedMembers? rest).map ((k, s.bare) :: ·) else none
  | _ => none

theorem isSome_namedMembers?_cons (p : Span) (k : String) {s : Source} (hs : s.skip = none)
    (rest : List (Source × Source)) :
    (namedMembers? ((.string p k, s) :: rest)).isSome = (namedMembers? rest).isSome := by
  simp [namedMembers?, hs]

theorem skipMembers_eq_none {members : List (Source × Source)}
    (h : (namedMembers? members).isSome) : Source.skipMembers members = none := by
  induction members with
  | nil => rfl
  | cons m rest ih =>
    obtain ⟨name, s⟩ := m
    cases name with
    | string p k =>
      cases hs : s.skip with
      | some f => simp [namedMembers?, hs] at h
      | none =>
        rw [isSome_namedMembers?_cons p k hs] at h
        simp [Source.skipMembers, Source.skipName, hs, ih h]
    | _ => cases h

theorem skip_object_eq_none {p : Span} {inner : Nat} {members : List (Source × Source)}
    {e : Option (Placed Fault)} (h : (namedMembers? members).isSome) (he : e = none) :
    (Source.object p inner members e).skip = none := by
  rw [Source.skip, skipMembers_eq_none h, he]
  rfl

theorem skip_array_eq_none {p : Span} {inner : Nat} {items : List Source}
    {e : Option (Placed Fault)} (h : Source.skipItems items = none) (he : e = none) :
    (Source.array p inner items e).skip = none := by
  rw [Source.skip, h, he]
  rfl

namespace Decoder

/-- What is read could as well have been skipped. -/
def Thorough (d : Decoder α) : Prop :=
  ∀ origin s x, d origin s = .ok x → s.skip = none

variable {d : Decoder α}

theorem Thorough.map (h : d.Thorough) (f : α → β) : (d.map f).Thorough := by
  intro origin s y hy
  obtain ⟨x, hx, -⟩ := map_ok hy
  exact h origin s x hx

theorem string_thorough : string.Thorough := by
  intro origin s x hx
  cases s <;> first | rfl | exact absurd hx (mistyped_ne_ok _ _ _)

theorem path_thorough : path.Thorough := by
  intro origin s x hx
  cases s <;> first | rfl | exact absurd hx (mistyped_ne_ok _ _ _)

theorem whole_thorough (name : String) (low high : Int) : (whole name low high).Thorough := by
  intro origin s x hx
  cases s <;> first | rfl | exact absurd hx (mistyped_ne_ok _ _ _)

theorem unsigned64_thorough : unsigned64.Thorough := (whole_thorough _ _ _).map _

theorem Thorough.nullable (h : d.Thorough) : d.nullable.Thorough := by
  intro origin s x hx
  cases s with
  | null p => rfl
  | unreadable p o f g =>
    cases o with
    | null => cases hx
    | bare => exact h.map some origin (.unreadable p .bare f g) x hx
    | other => exact h.map some origin (.unreadable p .other f g) x hx
  | _ => exact h.map some origin _ x hx

theorem Thorough.elements (h : d.Thorough) {origin : Origin} {items : List Source} {xs : List α}
    (hxs : elements d origin items = .ok xs) : Source.skipItems items = none := by
  induction items generalizing xs with
  | nil => rfl
  | cons s rest ih =>
    obtain ⟨x, hx, hrest⟩ := bind_ok hxs
    obtain ⟨_, hrest, -⟩ := bind_ok hrest
    rw [Source.skipItems, h origin s x hx, ih hrest]
    rfl

theorem Thorough.list (h : d.Thorough) : (list d).Thorough := by
  intro origin s xs hxs
  cases s with
  | array p inner items e =>
    obtain ⟨_, helements, hend⟩ := bind_ok hxs
    obtain ⟨_, hend, -⟩ := bind_ok hend
    exact skip_array_eq_none (h.elements helements) (orFault_ok_iff.mp hend)
  | _ => exact absurd hxs (mistyped_ne_ok _ _ _)

theorem textSet_thorough : textSet.Thorough := string_thorough.list.map _

theorem Thorough.entries (h : d.Thorough) {origin : Origin} {members : List (Source × Source)}
    {xs : List (String × α)} (hxs : entries d origin members = .ok xs) :
    (namedMembers? members).isSome := by
  induction members generalizing xs with
  | nil => rfl
  | cons m rest ih =>
    obtain ⟨name, s⟩ := m
    cases name with
    | string p k =>
      obtain ⟨x, hx, hrest⟩ := bind_ok hxs
      obtain ⟨_, hrest, -⟩ := bind_ok hrest
      rw [isSome_namedMembers?_cons p k (h origin s x hx)]
      exact ih hrest
    | _ => cases hxs

theorem Thorough.table (h : d.Thorough) : (table d).Thorough := by
  intro origin s xs hxs
  cases s with
  | object p inner members e =>
    obtain ⟨_, hentries, hend⟩ := bind_ok hxs
    obtain ⟨_, hend, -⟩ := bind_ok hend
    exact skip_object_eq_none (h.entries hentries) (orFault_ok_iff.mp hend)
  | _ => exact absurd hxs (mistyped_ne_ok _ _ _)

end Decoder

namespace Fields

def Thorough (fs : Fields α) : Prop := ∀ f ∈ fs.known, f.check.Thorough

theorem nil_thorough (x : α) : (nil x).Thorough := fun _ h => nomatch h

theorem Thorough.andThen {fs : Fields (α → β)} (h : fs.Thorough) {d : Decoder α}
    (hd : d.Thorough) (name : String) (omissible : Bool) (missing : Except Problem α) :
    (fs.andThen name omissible d missing).Thorough := by
  intro f hf
  rcases List.mem_append.mp hf with hf | hf
  · exact h f hf
  · rw [List.mem_singleton.mp hf]
    exact hd.map fun _ => ()

variable {fs : Fields α}

/-- A name that cannot be read is refused, and so is a member of an unknown name that cannot be
skipped. -/
theorem Thorough.collect (h : fs.Thorough) {origin : Origin} {members : List (Source × Source)}
    {found sources : List (String × Source)}
    (hsources : fs.collect origin members found = .ok sources) :
    (namedMembers? members).isSome := by
  induction members generalizing found with
  | nil => rfl
  | cons m rest ih =>
    obtain ⟨name, s⟩ := m
    cases name with
    | string p k =>
      rw [Fields.collect] at hsources
      cases hf : fs.find? k with
      | none =>
        simp only [hf] at hsources
        obtain ⟨_, hskip, hrest⟩ := bind_ok hsources
        rw [isSome_namedMembers?_cons p k (orFault_ok_iff.mp hskip)]
        exact ih hrest
      | some f =>
        simp only [hf] at hsources
        split at hsources
        · cases hsources
        · obtain ⟨_, hcheck, hrest⟩ := bind_ok hsources
          have hs : s.skip = none := h f (List.mem_of_find?_eq_some hf) origin s _ hcheck
          rw [isSome_namedMembers?_cons p k hs]
          exact ih hrest
    | _ => cases hsources

theorem skipItems_of_assign {origin : Origin} {fields left : List Field} {items : List Source}
    {found : List (String × Source)} (h : ∀ f ∈ fields, f.check.Thorough)
    (hassign : assign origin fields items = .ok (found, left, [])) :
    Source.skipItems items = none := by
  induction fields generalizing items found with
  | nil =>
    cases hassign
    rfl
  | cons f fields ih =>
    obtain ⟨hf, hfields⟩ := List.forall_mem_cons.mp h
    cases items with
    | nil => rfl
    | cons s items =>
      obtain ⟨_, hcheck, hrest⟩ := bind_ok hassign
      obtain ⟨⟨found', left', rest'⟩, hrest, hall⟩ := bind_ok hrest
      cases hall
      rw [Source.skipItems, hf origin s _ hcheck, ih hfields hrest]
      rfl

theorem Thorough.decoder (h : fs.Thorough) (what : String) : (fs.decoder what).Thorough := by
  intro origin s x hx
  cases s with
  | object p inner members e =>
    obtain ⟨_, hcollect, hend⟩ := bind_ok hx
    obtain ⟨_, hend, -⟩ := bind_ok hend
    exact skip_object_eq_none (h.collect hcollect) (orFault_ok_iff.mp hend)
  | array p inner items e =>
    obtain ⟨⟨found, left, rest⟩, hassign, hend⟩ := bind_ok hx
    cases rest with
    | nil =>
      obtain ⟨_, hend, -⟩ := bind_ok hend
      exact skip_array_eq_none (skipItems_of_assign h hassign) (orFault_ok_iff.mp hend)
    | cons s rest => cases hend
  | _ => exact absurd hx (mistyped_ne_ok _ _ _)

end Fields

/-! ## Documents -/

def isObject (text : String) : Bool :=
  match (Document.ofText text).value with
  | .object _ _ _ _ => true
  | _ => false

/-- The members of a document that is one object, without the places where they stand. -/
def membersIn (text : String) : Option (List (String × Source)) :=
  match Document.ofText text with
  | ⟨.object _ _ members none, none⟩ => namedMembers? members
  | _ => none

/-- An object that is accepted as a record has members that can be told. -/
theorem Fields.Thorough.isSome_membersIn {fs : Fields α} (h : fs.Thorough) {what text : String}
    {x : α} (hx : decodeText (fs.decoder what) text = .ok x) (hobject : isObject text = true) :
    (membersIn text).isSome := by
  obtain ⟨_, hread, hend⟩ := bind_ok (decodePlaced_of_decodeText hx)
  obtain ⟨_, hend, -⟩ := bind_ok hend
  have htrailing := orFault_ok_iff.mp hend
  obtain ⟨value, trailing, hdocument⟩ :
      ∃ value trailing, Document.ofText text = ⟨value, trailing⟩ := ⟨_, _, rfl⟩
  rw [hdocument] at hread htrailing
  obtain rfl : trailing = none := htrailing
  rw [isObject, hdocument] at hobject
  rw [membersIn, hdocument]
  cases value with
  | object p inner members e =>
    obtain ⟨_, hcollect, hclosed⟩ := bind_ok hread
    obtain ⟨_, hclosed, -⟩ := bind_ok hclosed
    obtain rfl := orFault_ok_iff.mp hclosed
    exact h.collect hcollect
  | _ => cases hobject

end StagedTests.Json
