import StagedTests.Proofs.Json.Skipping

/-!
# Records as functions of their members

A record whose members have names of their own is read field by field: the members may come in any
order, and one of an unknown name does nothing as long as it can be skipped. So a document that is
one object is read as its members say, wherever in the text they stand.
-/

namespace StagedTests.Json

variable {α β : Type}

theorem bind_ok_iff {ε : Type} {r : Except ε α} {f : α → Except ε β} {y : β} :
    r >>= f = .ok y ↔ ∃ x, r = .ok x ∧ f x = .ok y := by
  refine ⟨bind_ok, ?_⟩
  rintro ⟨x, rfl, h⟩
  exact h

namespace Fields

/-- A member is no obstacle to reading the record: it is unknown and can be skipped, or it passes
the check of its field. -/
def Passes (fs : Fields α) (origin : Origin) (m : String × Source) : Prop :=
  match fs.find? m.1 with
  | none => m.2.skip = none
  | some f => f.check origin m.2 = .ok ()

def named (members : List (String × Source)) : List (Source × Source) :=
  members.map fun m => (.string {} m.1, m.2)

def relevant (fs : Fields α) (members : List (String × Source)) : List (String × Source) :=
  members.filter fun m => (fs.find? m.1).isSome

theorem collect_named_iff (fs : Fields α) (origin : Origin) {members : List (String × Source)}
    (hnodup : (members.map (·.1)).Nodup) {found : List (String × Source)}
    (hnew : ∀ e ∈ found, e.1 ∉ members.map (·.1)) (sources : List (String × Source)) :
    fs.collect origin (named members) found = .ok sources ↔
      (∀ m ∈ members, fs.Passes origin m) ∧ sources = found ++ fs.relevant members := by
  induction members generalizing found with
  | nil => simp [named, relevant, Fields.collect, eq_comm]
  | cons m rest ih =>
    obtain ⟨k, s⟩ := m
    obtain ⟨hk, hrest⟩ := List.nodup_cons.mp hnodup
    have hlater : ∀ e ∈ found, e.1 ∉ rest.map (·.1) :=
      fun e he hmem => hnew e he (List.mem_cons_of_mem _ hmem)
    rw [List.forall_mem_cons, and_assoc]
    change fs.collect origin ((.string {} k, s) :: named rest) found = .ok sources ↔ _
    rw [Fields.collect]
    cases hf : fs.find? k with
    | none =>
      have hpasses : fs.Passes origin (k, s) ↔ s.skip = none := by simp only [Passes, hf]
      have hrelevant : fs.relevant ((k, s) :: rest) = fs.relevant rest := by simp [relevant, hf]
      simp only [bind_ok_iff, orFault_ok_iff, ih hrest hlater, hpasses, hrelevant, exists_const]
    | some f =>
      have hpasses : fs.Passes origin (k, s) ↔ f.check origin s = .ok () := by
        simp only [Passes, hf]
      have hrelevant : fs.relevant ((k, s) :: rest) = (k, s) :: fs.relevant rest := by
        simp [relevant, hf]
      have hunseen : found.any (fun e => e.1 = k) = false := by
        rw [List.any_eq_false]
        intro e he hek
        exact hnew e he (by simp [of_decide_eq_true hek])
      have hnext : ∀ e ∈ found ++ [(k, s)], e.1 ∉ rest.map (·.1) := by
        intro e he
        rcases List.mem_append.mp he with he | he
        · exact hlater e he
        · rw [List.mem_singleton.mp he]
          exact hk
      simp only [hunseen, Bool.false_eq_true, if_false, bind_ok_iff, ih hrest hnext, hpasses,
        hrelevant, List.append_assoc, List.singleton_append]
      constructor
      · rintro ⟨_, h⟩
        exact h
      · exact fun h => ⟨(), h⟩

theorem lookUp_relevant {fs : Fields α} {name : String} (h : (fs.find? name).isSome)
    (members : List (String × Source)) :
    lookUp (fs.relevant members) name = lookUp members name := by
  induction members with
  | nil => rfl
  | cons m rest ih =>
    by_cases hm : m.1 = name
    · have hrelevant : fs.relevant (m :: rest) = m :: fs.relevant rest := by
        simp [relevant, hm, h]
      rw [hrelevant]
      simp [lookUp, hm]
    · have hlookUp : ∀ l, lookUp (m :: l) name = lookUp l name := fun l => by simp [lookUp, hm]
      rw [hlookUp, ← ih, relevant, List.filter_cons]
      split
      · exact hlookUp _
      · rfl

theorem mem_of_lookUp {members : List (String × Source)} {name : String} {s : Source}
    (h : lookUp members name = some s) : (name, s) ∈ members := by
  obtain ⟨m, hm, rfl⟩ := Option.map_eq_some_iff.mp h
  obtain rfl : m.1 = name := by simpa using List.find?_some hm
  exact List.mem_of_find?_eq_some hm

theorem mem_iff_lookUp {members : List (String × Source)} (hnodup : (members.map (·.1)).Nodup)
    {name : String} {s : Source} : (name, s) ∈ members ↔ lookUp members name = some s := by
  refine ⟨fun h => ?_, mem_of_lookUp⟩
  obtain ⟨m, hm⟩ := Option.isSome_iff_exists.mp
    (List.find?_isSome (p := fun e : String × Source => e.1 = name) |>.mpr ⟨_, h, by simp⟩)
  have hname : m.1 = name := by simpa using List.find?_some hm
  have heq : m = (name, s) :=
    List.inj_on_of_nodup_map hnodup (List.mem_of_find?_eq_some hm) h hname
  rw [lookUp, hm, heq, Option.map_some]

theorem lookUp_eq_none_iff {members : List (String × Source)} {name : String} :
    lookUp members name = none ↔ name ∉ members.map (·.1) := by
  simp only [lookUp, Option.map_eq_none_iff, List.find?_eq_none, List.mem_map, not_exists, not_and,
    decide_eq_true_eq]

theorem Took.unique {d : Decoder α} {missing : Except Problem α} {origin : Origin}
    {source : Option Source} {x y : α} (hx : Took d missing origin source x)
    (hy : Took d missing origin source y) : x = y := by
  cases source with
  | none => exact Except.ok.inj (hx.symm.trans hy)
  | some s => exact Except.ok.inj (hx.symm.trans hy)

/-- A record that can be built passes the checks of its fields. -/
def Checked (fs : Fields α) : Prop :=
  ∀ origin stop find x, fs.build origin stop find = .ok x →
    ∀ f ∈ fs.known, ∀ s, find f.name = some s → f.check origin s = .ok ()

theorem nil_checked (x : α) : (nil x).Checked := fun _ _ _ _ _ _ h => nomatch h

theorem andThen_build_iff {fs : Fields (α → β)} {name : String} {omissible : Bool} {d : Decoder α}
    {missing : Except Problem α} {origin : Origin} {stop : Nat} {find : String → Option Source}
    {y : β} : (fs.andThen name omissible d missing).build origin stop find = .ok y ↔
      ∃ f x, fs.build origin stop find = .ok f ∧ Took d missing origin (find name) x ∧ y = f x := by
  refine ⟨andThen_build, ?_⟩
  rintro ⟨f, x, hf, htook, rfl⟩
  simp only [andThen, bind_ok_iff]
  refine ⟨f, hf, ?_⟩
  cases hfind : find name with
  | some s =>
    rw [hfind] at htook
    have hx : d origin s = .ok x := htook
    simp only [hx]
    rfl
  | none =>
    rw [hfind] at htook
    have hx : missing = .ok x := htook
    simp only [hx]
    rfl

theorem Checked.andThen {fs : Fields (α → β)} (h : fs.Checked) (name : String) (omissible : Bool)
    (d : Decoder α) (missing : Except Problem α) :
    (fs.andThen name omissible d missing).Checked := by
  intro origin stop find y hy g hg s hs
  obtain ⟨f, x, hf, htook, -⟩ := andThen_build_iff.mp hy
  rcases List.mem_append.mp hg with hg | hg
  · exact h origin stop find f hf g hg s hs
  · rw [List.mem_singleton.mp hg] at hs ⊢
    rw [hs] at htook
    have hx : d origin s = .ok x := htook
    simp only [hx]
    rfl

/-- A record is read from members with names of their own if the unknown ones can be skipped and it
can be built from the others. -/
theorem decoder_named_iff {fs : Fields α} (h : fs.Checked) (what : String) (origin : Origin)
    {members : List (String × Source)} (hnodup : (members.map (·.1)).Nodup)
    (hskip : ∀ m ∈ members, m.2.skip = none) (x : α) :
    fs.decoder what origin (.object {} 0 (named members) none) = .ok x ↔
      fs.build origin 0 (lookUp (fs.relevant members)) = .ok x := by
  have hnone : ∀ e ∈ ([] : List (String × Source)), e.1 ∉ members.map (·.1) := fun _ h => nomatch h
  have hcollect := collect_named_iff fs origin hnodup hnone
  simp only [decoder, ofMembers, bind_ok_iff, orFault_ok_iff, hcollect, List.nil_append]
  constructor
  · rintro ⟨_, ⟨-, rfl⟩, _, -, hbuild⟩
    exact hbuild
  · intro hbuild
    refine ⟨_, ⟨fun m hm => ?_, rfl⟩, (), trivial, hbuild⟩
    unfold Passes
    cases hf : fs.find? m.1 with
    | none => exact hskip m hm
    | some f =>
      have hname : f.name = m.1 := by simpa using List.find?_some hf
      refine h origin 0 _ x hbuild f (List.mem_of_find?_eq_some hf) m.2 ?_
      rw [hname, lookUp_relevant (by rw [hf]; rfl)]
      exact (mem_iff_lookUp hnodup).mp hm

end Fields

/-! ## Documents -/

theorem bareMembers_of_named {members : List (Source × Source)} {named : List (String × Source)}
    (h : namedMembers? members = some named) :
    Source.bareMembers members = Fields.named named ∧ ∀ m ∈ named, m.2.skip = none := by
  induction members generalizing named with
  | nil =>
    cases h
    exact ⟨rfl, fun _ h => nomatch h⟩
  | cons m rest ih =>
    obtain ⟨name, s⟩ := m
    cases name with
    | string p k =>
      simp only [namedMembers?, Option.ite_none_right_eq_some, Option.map_eq_some_iff] at h
      obtain ⟨hskip, later, hlater, rfl⟩ := h
      obtain ⟨hbare, hskips⟩ := ih hlater
      refine ⟨?_, List.forall_mem_cons.mpr ⟨?_, hskips⟩⟩
      · rw [Source.bareMembers, hbare]
        rfl
      · rw [← Option.not_isSome_iff_eq_none, Source.isSome_skip_bare, Option.not_isSome_iff_eq_none]
        exact Option.isNone_iff_eq_none.mp hskip
    | _ => cases h

theorem skip_of_membersIn {text : String} {members : List (String × Source)}
    (h : membersIn text = some members) : ∀ m ∈ members, m.2.skip = none := by
  unfold membersIn at h
  split at h
  · exact (bareMembers_of_named h).2
  · cases h

/-- What a document is read as follows from its members. -/
theorem decodeText_eq_ok_iff {d : Decoder α} (hd : d.Blind) {text : String}
    {members : List (String × Source)} (h : membersIn text = some members) (x : α) :
    decodeText d text = .ok x ↔ d .text (.object {} 0 (Fields.named members) none) = .ok x := by
  unfold membersIn at h
  split at h
  · next p inner ms hdocument =>
    obtain ⟨hbare, -⟩ := bareMembers_of_named h
    have hvalue := hd .text (.object p inner ms none)
    rw [Source.bare, hbare] at hvalue
    have hread : (decodeText d text).toOption = (d .text (.object p inner ms none)).toOption := by
      simp only [decodeText, decodePlaced, hdocument]
      cases d .text (.object p inner ms none) <;> rfl
    rw [← toOption_eq_some_iff, hread, ← hvalue, toOption_eq_some_iff]
    rfl
  · cases h

end StagedTests.Json
