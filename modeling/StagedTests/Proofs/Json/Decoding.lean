import StagedTests.Json.Decode
import StagedTests.Proofs.Json.Written

/-!
# Decoders and written values

`Decoder.Reads d v x` says that a decoder takes the value `v` for `x` wherever in a text it stands;
`Decoder.Yields d P` that whatever it takes a text for is a `P`. For each way of building a decoder
there is a rule for either. A record is read from the members that are written for it, of which
some may be left out.
-/

namespace StagedTests.Json

open Source (Holds HoldsItems HoldsMembers)

variable {α β : Type}

/-- The decoder takes a value for `x`, wherever it comes from and stands. -/
def Decoder.Reads (d : Decoder α) (v : Json) (x : α) : Prop :=
  ∀ origin s, Holds s v → d origin s = .ok x

/-- Whatever the decoder reads is so. -/
def Decoder.Yields (d : Decoder α) (P : α → Prop) : Prop :=
  ∀ origin s x, d origin s = .ok x → P x

def orNull (w : α → Json) : Option α → Json
  | none => .null
  | some x => w x

theorem text?_eq_orNull (o : Option String) : text? o = orNull .string o := by
  cases o <;> rfl

theorem bind_ok {ε : Type} {r : Except ε α} {f : α → Except ε β} {y : β}
    (h : r >>= f = .ok y) : ∃ x, r = .ok x ∧ f x = .ok y := by
  cases r with
  | error e => exact absurd h (by simp [bind, Except.bind])
  | ok x => exact ⟨x, rfl, h⟩

theorem map_ok {ε : Type} {r : Except ε α} {f : α → β} {y : β} (h : r.map f = .ok y) :
    ∃ x, r = .ok x ∧ f x = y := by
  cases r with
  | error e => exact absurd h (by simp [Except.map])
  | ok x => exact ⟨x, rfl, by simpa [Except.map] using h⟩

theorem mistyped_ne_ok (expected : String) (s : Source) (x : α) :
    mistyped expected s ≠ .ok x := by
  intro h
  obtain ⟨found, -, h⟩ := bind_ok h
  cases h

namespace Decoder

variable {d : Decoder α} {v : Json} {x : α}

theorem Reads.map (h : d.Reads v x) (f : α → β) : (d.map f).Reads v (f x) := by
  intro origin s hs
  rw [Decoder.map, h origin s hs]
  rfl

theorem string_reads (t : String) : string.Reads (.string t) t := by
  rintro origin _ ⟨⟩
  rfl

theorem path_reads (t : String) : path.Reads (.string t) t := by
  rintro origin _ ⟨⟩
  rfl

theorem whole_reads (name : String) {low high i : Int} (h : low ≤ i ∧ i ≤ high) :
    (whole name low high).Reads (.int i) i := by
  rintro origin _ ⟨⟩
  rw [whole, if_pos h]

theorem unsigned64_reads {n : Nat} (h : n < 2 ^ 64) : unsigned64.Reads (.nat n) n := by
  have hn : (0 : Int) ≤ n ∧ (n : Int) ≤ Int.pow 2 64 - 1 := by
    simp only [Int.pow_eq]
    omega
  exact (whole_reads "u64" hn).map Int.toNat

theorem signed32_reads {i : Int} (h : -2 ^ 31 ≤ i ∧ i < 2 ^ 31) : signed32.Reads (.int i) i := by
  refine whole_reads "i32" ?_
  simp only [Int.pow_eq]
  omega

theorem nullable_reads_null (d : Decoder α) : d.nullable.Reads .null none := by
  rintro origin _ ⟨⟩
  rfl

theorem Reads.nullable (h : d.Reads v x) (hv : v ≠ .null) : d.nullable.Reads v (some x) := by
  intro origin s hs
  have hd := h origin s hs
  cases hs with
  | null p => exact absurd rfl hv
  | _ =>
    simp only [Decoder.nullable, hd]
    rfl

theorem orNull_reads {w : α → Json} {o : Option α} (h : ∀ x ∈ o, w x ≠ .null ∧ d.Reads (w x) x) :
    d.nullable.Reads (orNull w o) o := by
  cases o with
  | none => exact nullable_reads_null d
  | some x => exact (h x rfl).2.nullable (h x rfl).1

theorem text?_reads {d : Decoder String} (h : ∀ t, d.Reads (.string t) t) (o : Option String) :
    d.nullable.Reads (text? o) o := by
  rw [text?_eq_orNull]
  exact orNull_reads fun t _ => ⟨by simp, h t⟩

theorem elements_eq {w : α → Json} {xs : List α} (h : ∀ x ∈ xs, d.Reads (w x) x) (origin : Origin)
    {items : List Source} (hs : HoldsItems items (xs.map w)) :
    elements d origin items = .ok xs := by
  induction xs generalizing items with
  | nil =>
    cases hs
    rfl
  | cons x xs ih =>
    obtain ⟨hx, hxs⟩ := List.forall_mem_cons.mp h
    cases hs with
    | cons hv hvs =>
      rw [elements, hx origin _ hv, ih hxs hvs]
      rfl

theorem list_reads {w : α → Json} {xs : List α} (h : ∀ x ∈ xs, d.Reads (w x) x) :
    (list d).Reads (.array (xs.map w)) xs := by
  rintro origin _ (_ | _ | _ | _ | ⟨p, inner, hs⟩)
  rw [list, elements_eq h origin hs]
  rfl

theorem texts_reads (l : List String) : textSet.Reads (texts l) (TextSet.ofList l) :=
  Reads.map (list_reads fun t _ => string_reads t) TextSet.ofList

theorem entries_eq {w : α → Json} {es : List (String × α)} (h : ∀ e ∈ es, d.Reads (w e.2) e.2)
    (origin : Origin) {members : List (Source × Source)}
    (hs : HoldsMembers members (es.map fun e => (e.1, w e.2))) :
    entries d origin members = .ok es := by
  induction es generalizing members with
  | nil =>
    cases hs
    rfl
  | cons e es ih =>
    obtain ⟨he, hes⟩ := List.forall_mem_cons.mp h
    cases hs with
    | cons p k hv hvs =>
      rw [entries, he origin _ hv, ih hes hvs]
      rfl

theorem table_reads {w : α → Json} {t : Table α} (h : ∀ e ∈ t.entries, d.Reads (w e.2) e.2) :
    (table d).Reads (ofTable w t) t := by
  rintro origin _ (_ | _ | _ | _ | _ | ⟨p, inner, hs⟩)
  rw [table, entries_eq h origin hs]
  exact congrArg Except.ok t.ofList_entries

theorem enumeration_reads {cases : List (String × α)} {name : String}
    (h : cases.find? (fun c => c.1 = name) = some (name, x)) :
    (enumeration cases).Reads (.string name) x := by
  rintro origin _ ⟨⟩
  rw [enumeration, variant, h]

/-! ### What is read -/

theorem yields_true (d : Decoder α) : d.Yields fun _ => True :=
  fun _ _ _ _ => trivial

theorem Yields.map {P : β → Prop} {f : α → β} (h : d.Yields fun x => P (f x)) :
    (d.map f).Yields P := by
  intro origin s y hy
  obtain ⟨x, hx, rfl⟩ := map_ok hy
  exact h origin s x hx

theorem whole_yields (name : String) (low high : Int) :
    (whole name low high).Yields fun i => low ≤ i ∧ i ≤ high := by
  intro origin s i hi
  unfold whole at hi
  split at hi
  · split at hi
    · next h => exact Except.ok.inj hi ▸ h
    · cases hi
  · exact absurd hi (mistyped_ne_ok _ _ i)

theorem unsigned64_yields : unsigned64.Yields fun n => n < 2 ^ 64 := by
  refine Yields.map fun origin s i hi => ?_
  have h := whole_yields _ _ _ origin s i hi
  simp only [Int.pow_eq] at h
  omega

theorem signed32_yields : signed32.Yields fun i => -2 ^ 31 ≤ i ∧ i < 2 ^ 31 := by
  intro origin s i hi
  have h := whole_yields _ _ _ origin s i hi
  simp only [Int.pow_eq] at h
  omega

theorem Yields.nullable {P : α → Prop} (h : d.Yields P) :
    d.nullable.Yields fun o => ∀ x ∈ o, P x := by
  intro origin s o ho x hx
  unfold Decoder.nullable at ho
  split at ho
  · obtain rfl := Except.ok.inj ho
    cases hx
  · cases ho
  · obtain ⟨y, hy, rfl⟩ := map_ok ho
    obtain rfl := Option.some.inj hx
    exact h origin _ y hy

end Decoder

/-! ## Records -/

def given (l : List (String × Option Json)) (name : String) : Option Json :=
  (l.find? fun m => m.1 = name).bind (·.2)

theorem given_eq_none {l : List (String × Option Json)} {name : String}
    (h : name ∉ l.map (·.1)) : given l name = none := by
  have hfind : l.find? (fun m => m.1 = name) = none := by
    rw [List.find?_eq_none]
    intro m hm hname
    exact h (List.mem_map.mpr ⟨m, hm, by simpa using hname⟩)
  rw [given, hfind]
  rfl

theorem given_of_mem {l : List (String × Option Json)} {name : String} {v : Json}
    (h : (name, some v) ∈ l) (hnodup : (l.map (·.1)).Nodup) : given l name = some v := by
  induction l with
  | nil => exact absurd h List.not_mem_nil
  | cons m l ih =>
    obtain ⟨hm, hl⟩ := List.nodup_cons.mp hnodup
    rcases List.mem_cons.mp h with rfl | hmem
    · simp [given]
    · have hne : m.1 ≠ name := fun hname => hm (List.mem_map.mpr ⟨_, hmem, hname.symm⟩)
      simpa [given, hne] using ih hmem hl

def kept (l : List (String × Option Json)) : List (String × Json) :=
  l.filterMap fun m => m.2.map (m.1, ·)

theorem mem_kept {l : List (String × Option Json)} {e : String × Json} (h : e ∈ kept l) :
    (e.1, some e.2) ∈ l := by
  obtain ⟨⟨k, o⟩, hm, he⟩ := List.mem_filterMap.mp h
  obtain ⟨v, rfl, rfl⟩ := Option.map_eq_some_iff.mp he
  exact hm

theorem nodup_kept {l : List (String × Option Json)} (h : (l.map (·.1)).Nodup) :
    ((kept l).map (·.1)).Nodup := by
  refine List.Nodup.sublist ?_ h
  induction l with
  | nil => exact List.Sublist.slnil
  | cons m l ih =>
    have hl := ih (List.nodup_cons.mp h).2
    obtain ⟨k, o⟩ := m
    cases o with
    | none => exact hl.cons k
    | some v => exact hl.cons_cons k

theorem find?_kept {l : List (String × Option Json)} (h : (l.map (·.1)).Nodup) (name : String) :
    ((kept l).find? fun e => e.1 = name).map (·.2) = given l name := by
  induction l with
  | nil => rfl
  | cons m l ih =>
    obtain ⟨hm, hl⟩ := List.nodup_cons.mp h
    obtain ⟨k, o⟩ := m
    by_cases hk : k = name
    · subst hk
      cases o with
      | some v => simp [kept, given]
      | none =>
        have hrest := given_eq_none hm
        rw [← ih hl] at hrest
        simpa [kept, given] using hrest
    · have hrest := ih hl
      cases o <;> simpa [kept, given, hk] using hrest

def Finds (find : String → Option Source) (look : String → Option Json) : Prop :=
  ∀ name, Option.Rel Holds (find name) (look name)

namespace Fields

/-- The record is built as `x` from the members that are looked for. -/
structure Reads (fs : Fields α) (look : String → Option Json) (x : α) : Prop where
  check : ∀ f ∈ fs.known, ∀ v, look f.name = some v → f.check.Reads v ()
  build : ∀ origin stop find, Finds find look → fs.build origin stop find = .ok x

def Yields (fs : Fields α) (P : α → Prop) : Prop :=
  ∀ origin stop find x, fs.build origin stop find = .ok x → P x

variable {look : String → Option Json} {fs : Fields (α → β)} {f : α → β} {x : α}
  {d : Decoder α} {missing : Except Problem α}

theorem nil_reads (look : String → Option Json) (x : α) : (nil x).Reads look x :=
  ⟨by simp [nil], fun _ _ _ _ => rfl⟩

theorem Reads.andThen (h : fs.Reads look f) (name : String) (omissible : Bool)
    (hsome : ∀ v, look name = some v → d.Reads v x) (hnone : look name = none → missing = .ok x) :
    (fs.andThen name omissible d missing).Reads look (f x) := by
  constructor
  · intro g hg v hv
    rcases List.mem_append.mp hg with hg | hg
    · exact h.check g hg v hv
    · obtain rfl := List.mem_singleton.mp hg
      intro origin s hs
      simp only [hsome v hv origin s hs]
      rfl
  · intro origin stop find hfind
    have hname := hfind name
    simp only [Fields.andThen, h.build origin stop find hfind]
    generalize find name = source at hname
    generalize hlook : look name = member at hname
    cases hname with
    | none =>
      rw [hnone hlook]
      rfl
    | some hs =>
      simp only [bind, Except.bind, hsome _ hlook origin _ hs]
      rfl

theorem Reads.written (h : fs.Reads look f) {name : String} {omissible : Bool} {v : Json}
    (hlook : look name = some v) (hd : d.Reads v x) :
    (fs.andThen name omissible d missing).Reads look (f x) :=
  h.andThen name omissible (fun _ hv => Option.some.inj (hlook.symm.trans hv) ▸ hd)
    fun hn => absurd (hlook.symm.trans hn) (by simp)

theorem Reads.orElse {γ : Type} (h : fs.Reads look f) {name : String} {standard : α} {o : Option γ}
    {w : γ → Json} (g : γ → α) (hlook : look name = o.map w)
    (hd : ∀ y ∈ o, d.Reads (w y) (g y)) :
    (fs.defaulted name d standard).Reads look (f ((o.map g).getD standard)) := by
  refine h.andThen name true ?_ ?_
  · intro v hv
    obtain ⟨y, rfl, rfl⟩ := Option.map_eq_some_iff.mp (hlook.symm.trans hv)
    exact hd y rfl
  · intro hn
    obtain rfl := Option.map_eq_none_iff.mp (hlook.symm.trans hn)
    rfl

theorem Reads.orStandard (h : fs.Reads look f) {name : String} {standard : α} {o : Option α}
    {w : α → Json} (hlook : look name = o.map w) (hd : ∀ x ∈ o, d.Reads (w x) x) :
    (fs.defaulted name d standard).Reads look (f (o.getD standard)) := by
  have hread : (fs.defaulted name d standard).Reads look (f ((o.map id).getD standard)) :=
    h.orElse id hlook hd
  rwa [Option.map_id, id] at hread

inductive Named : List (String × Source) → List (String × Json) → Prop
  | nil : Named [] []
  | cons (k : String) {s : Source} {v : Json} {found : List (String × Source)}
      {vs : List (String × Json)} (h : Holds s v) (hs : Named found vs) :
      Named ((k, s) :: found) ((k, v) :: vs)

theorem Named.lookUp {found : List (String × Source)} {vs : List (String × Json)}
    (h : Named found vs) (name : String) :
    Option.Rel Holds (lookUp found name) ((vs.find? fun e => e.1 = name).map (·.2)) := by
  induction h with
  | nil => exact .none
  | cons k hv hvs ih =>
    by_cases hk : k = name
    · subst hk
      simpa [Fields.lookUp] using Option.Rel.some hv
    · simpa [Fields.lookUp, hk] using ih

theorem collect_eq {fs : Fields α} {members : List (Source × Source)}
    {vs : List (String × Json)} (h : HoldsMembers members vs)
    (hknown : ∀ e ∈ vs, ∃ f ∈ fs.known, f.name = e.1)
    (hcheck : ∀ f ∈ fs.known, ∀ e ∈ vs, f.name = e.1 → f.check.Reads e.2 ())
    (origin : Origin) (found : List (String × Source))
    (hnodup : (found.map (·.1) ++ vs.map (·.1)).Nodup) :
    ∃ sources, fs.collect origin members found = .ok (found ++ sources) ∧ Named sources vs := by
  induction members generalizing vs found with
  | nil =>
    cases h
    exact ⟨[], by simp [collect], .nil⟩
  | cons m members ih =>
    cases h with
    | @cons p k s _ v vs hv hvs =>
      obtain ⟨f, hf⟩ : ∃ f, fs.find? k = some f := by
        obtain ⟨f, hf, hname⟩ := hknown (k, v) List.mem_cons_self
        exact Option.isSome_iff_exists.mp
          (List.find?_isSome.mpr ⟨f, hf, by simpa using hname⟩)
      have hname : f.name = k := by simpa using List.find?_some hf
      have hread := hcheck f (List.mem_of_find?_eq_some hf) (k, v) List.mem_cons_self hname
      have hnew : found.any (fun e => e.1 = k) = false := by
        rw [List.any_eq_false]
        intro e he hek
        have hmem : k ∈ found.map (·.1) := List.mem_map.mpr ⟨e, he, by simpa using hek⟩
        exact (List.nodup_append.mp hnodup).2.2 k hmem k (by simp) rfl
      have hrest : ((found ++ [(k, s)]).map (·.1) ++ vs.map (·.1)).Nodup := by
        simpa using hnodup
      obtain ⟨sources, hsources, hnamed⟩ := ih hvs
        (fun e he => hknown e (List.mem_cons_of_mem _ he))
        (fun f hf e he => hcheck f hf e (List.mem_cons_of_mem _ he)) (found ++ [(k, s)]) hrest
      refine ⟨(k, s) :: sources, ?_, .cons k hv hnamed⟩
      rw [collect]
      simp only [hf, hnew, hread origin s hv, Bool.false_eq_true, if_false]
      rw [List.append_assoc, List.singleton_append] at hsources
      exact hsources

/-- A record is read from the members that are written for it, in the order of its fields. -/
theorem Reads.decoder {fs : Fields α} {l : List (String × Option Json)} {x : α}
    (h : fs.Reads (given l) x) (what : String) (hknown : fs.known.map Field.name = l.map (·.1))
    (hnodup : (l.map (·.1)).Nodup) : (fs.decoder what).Reads (objectOf l) x := by
  rintro origin _ (_ | _ | _ | _ | _ | @⟨p, inner, members, _, hs⟩)
  have hin : ∀ e ∈ kept l, ∃ f ∈ fs.known, f.name = e.1 := by
    intro e he
    have hmem : e.1 ∈ fs.known.map Field.name :=
      hknown ▸ List.mem_map.mpr ⟨(e.1, some e.2), mem_kept he, rfl⟩
    exact List.mem_map.mp hmem
  have hcheck : ∀ f ∈ fs.known, ∀ e ∈ kept l, f.name = e.1 → f.check.Reads e.2 () := by
    intro f hf e he hname
    exact h.check f hf e.2 (hname ▸ given_of_mem (mem_kept he) hnodup)
  obtain ⟨sources, hsources, hnamed⟩ := collect_eq hs hin hcheck origin [] (nodup_kept hnodup)
  have hfind : Finds (lookUp sources) (given l) := fun name =>
    find?_kept hnodup name ▸ hnamed.lookUp name
  simp only [Fields.decoder, ofMembers, hsources, List.nil_append]
  exact h.build origin p.stop (lookUp sources) hfind

theorem Yields.nil {P : α → Prop} {x : α} (h : P x) : (nil x).Yields P := by
  intro origin stop find y hy
  obtain rfl := Except.ok.inj hy
  exact h

theorem Yields.andThen {P : β → Prop} {Q : α → Prop} (h : fs.Yields fun f => ∀ x, Q x → P (f x))
    (name : String) (omissible : Bool) (hd : d.Yields Q) (hmissing : ∀ x, missing = .ok x → Q x) :
    (fs.andThen name omissible d missing).Yields P := by
  intro origin stop find y hy
  obtain ⟨f, hf, hy⟩ := bind_ok hy
  split at hy
  · obtain ⟨x, hx, rfl⟩ := map_ok hy
    exact h origin stop find f hf x (hd origin _ x hx)
  · cases hmiss : missing with
    | error p =>
      rw [hmiss] at hy
      exact absurd hy (by simp [Except.map, Except.mapError])
    | ok x =>
      rw [hmiss] at hy
      obtain rfl := Except.ok.inj hy
      exact h origin stop find f hf x (hmissing x hmiss)

theorem Yields.andAny {P : β → Prop} (h : fs.Yields fun f => ∀ x, P (f x)) (name : String)
    (omissible : Bool) : (fs.andThen name omissible d missing).Yields P := by
  have hany : fs.Yields fun f => ∀ x, True → P (f x) :=
    fun origin stop find f hf x _ => h origin stop find f hf x
  exact hany.andThen name omissible (Decoder.yields_true d) fun _ _ => trivial

theorem Yields.decoder {fs : Fields α} {P : α → Prop} (h : fs.Yields P) (what : String) :
    (fs.decoder what).Yields P := by
  intro origin s x hx
  cases s with
  | object p inner members e =>
    obtain ⟨found, -, hx⟩ := bind_ok hx
    obtain ⟨-, -, hx⟩ := bind_ok hx
    exact h _ _ _ _ hx
  | array p inner items e =>
    obtain ⟨⟨found, fields, rest⟩, -, hx⟩ := bind_ok hx
    cases rest with
    | nil =>
      dsimp only at hx
      split at hx
      · obtain ⟨-, -, hx⟩ := bind_ok hx
        exact h _ _ _ _ hx
      · obtain ⟨-, -, hx⟩ := bind_ok hx
        cases hx
    | cons s rest => cases hx
  | _ => exact absurd hx (mistyped_ne_ok what _ x)

end Fields

/-! ## Tagged sums -/

/-- The value is none that holds others. -/
def IsPlain : Json → Prop
  | .array _ | .object _ => False
  | _ => True

@[simp] theorem string_isPlain (t : String) : (Json.string t).IsPlain := trivial

@[simp] theorem int_isPlain (i : Int) : (int i).IsPlain := trivial

@[simp] theorem text?_isPlain (o : Option String) : (text? o).IsPlain := by
  cases o <;> exact trivial

theorem fault?_of_isPlain {s : Source} {v : Json} (h : Holds s v) (hv : v.IsPlain) :
    s.fault? = none := by
  cases h with
  | array => exact hv.elim
  | object => exact hv.elim
  | _ => rfl

def Case.Reads (c : Case α) (v : Json) (x : α) : Prop :=
  ∀ s, Holds s v → c.decode s = .ok x

theorem Case.reads_nil (tag record : String) (vs : List (String × Json)) (x : α) :
    Case.Reads ⟨tag, record, .nil x⟩ (.object vs) x := by
  rintro _ ⟨⟩
  rfl

theorem Case.reads_of_fields {c : Case α} {v : Json} {x : α} (hne : c.fields.known ≠ [])
    (h : (c.fields.decoder c.record).Reads v x) : c.Reads v x := by
  intro s hs
  unfold Case.decode
  split
  · next hnil => exact absurd hnil hne
  · exact h .members _ hs

namespace Decoder

variable {cases : List (Case α)} {key : String}

theorem splitTag_others {members : List (Source × Source)} {vs : List (String × Json)}
    (h : HoldsMembers members vs) (hkey : ∀ e ∈ vs, e.1 ≠ key) (hplain : ∀ e ∈ vs, e.2.IsPlain)
    (origin : Origin) (c : Option (Case α)) (others : List (Source × Source)) :
    splitTag cases key origin members c others = .ok (c, others ++ members) := by
  induction members generalizing vs others with
  | nil => simp [splitTag]
  | cons m members ih =>
    cases h with
    | @cons p k s _ v vs hv hvs =>
      obtain ⟨hk : k ≠ key, hks⟩ := List.forall_mem_cons.mp hkey
      obtain ⟨hp, hps⟩ := List.forall_mem_cons.mp hplain
      have hbuffer : buffer origin s = .ok () := by
        cases origin <;> simp [buffer, fault?_of_isPlain hv hp, orFault]
      simp only [splitTag, hk, if_false, hbuffer]
      have hrest := ih hvs hks hps (others ++ [(.string p k, s)])
      rw [List.append_assoc, List.singleton_append] at hrest
      exact hrest

/-- A case is read from its tag and the members behind it. -/
theorem tagged_reads (name : String) {tag : String} {c : Case α} {vs : List (String × Json)} {x : α}
    (hc : cases.find? (fun c => c.tag = tag) = some c) (hkey : ∀ e ∈ vs, e.1 ≠ key)
    (hplain : ∀ e ∈ vs, e.2.IsPlain) (h : c.Reads (.object vs) x) :
    (tagged name key cases).Reads (.object ((key, .string tag) :: vs)) x := by
  rintro origin _ (_ | _ | _ | _ | _ | @⟨p, inner, _, _, hs⟩)
  cases hs with
  | @cons q _ s members _ _ hv hvs =>
    cases hv with
    | string r =>
      have hcase : caseOf cases origin (.string r tag) = .ok c := by
        simp only [caseOf, variant, List.find?_map, Function.comp_def, hc, Option.map_some]
      have hrest : splitTag cases key origin members (some c) [] = .ok (some c, [] ++ members) :=
        splitTag_others hvs hkey hplain origin (some c) []
      simp only [tagged, splitTag, if_true, hcase, bind, Except.bind, hrest, List.nil_append,
        orFault]
      exact h _ (.object p inner hvs)

theorem variant_mem {cs : List (String × α)} {name : String} {stop : Nat} {x : α}
    (h : variant cs name stop = .ok x) : ∃ c ∈ cs, c.2 = x := by
  unfold variant at h
  split at h
  · next c hc => exact ⟨c, List.mem_of_find?_eq_some hc, Except.ok.inj h⟩
  · cases h

theorem caseOf_mem : (caseOf cases).Yields fun c => c ∈ cases := by
  intro origin s c h
  cases s with
  | string p name =>
    obtain ⟨e, he, rfl⟩ := variant_mem h
    obtain ⟨c, hc, rfl⟩ := List.mem_map.mp he
    exact hc
  | _ => exact absurd h (mistyped_ne_ok _ _ c)

theorem splitTag_mem {origin : Origin} {members others rest : List (Source × Source)}
    {before : Option (Case α)} {c : Case α} (hbefore : ∀ c ∈ before, c ∈ cases)
    (h : splitTag cases key origin members before others = .ok (some c, rest)) : c ∈ cases := by
  induction members generalizing before others with
  | nil => exact hbefore c (Prod.mk.inj (Except.ok.inj h)).1
  | cons m members ih =>
    obtain ⟨name, s⟩ := m
    cases name with
    | string p k =>
      simp only [splitTag] at h
      split at h
      · split at h
        · cases h
        · obtain ⟨c', hc', h⟩ := bind_ok h
          exact ih (fun c hc => Option.some.inj hc ▸ caseOf_mem origin s c' hc') h
      · obtain ⟨-, -, h⟩ := bind_ok h
        exact ih hbefore h
    | _ => cases h

theorem Yields.case {P : α → Prop} {c : Case α} (h : c.fields.Yields P) {s : Source} {x : α}
    (hx : c.decode s = .ok x) : P x := by
  unfold Case.decode at hx
  split at hx
  · exact h _ _ _ x hx
  · exact h.decoder c.record .members _ x hx

/-- What a tagged sum is read as, one of its cases builds. -/
theorem Yields.tagged {P : α → Prop} (h : ∀ c ∈ cases, c.fields.Yields P) (name key : String) :
    (Decoder.tagged name key cases).Yields P := by
  intro origin s x hx
  cases s with
  | object p inner members e =>
    obtain ⟨⟨c, others⟩, hsplit, hx⟩ := bind_ok hx
    obtain ⟨-, -, hx⟩ := bind_ok hx
    cases c with
    | none => cases hx
    | some c => exact Yields.case (h c (splitTag_mem (by simp) hsplit)) hx
  | array p inner items e =>
    cases items with
    | nil =>
      obtain ⟨-, -, hx⟩ := bind_ok hx
      cases hx
    | cons tag items =>
      obtain ⟨c, hc, hx⟩ := bind_ok hx
      obtain ⟨-, -, hx⟩ := bind_ok hx
      obtain ⟨-, -, hx⟩ := bind_ok hx
      exact Yields.case (h c (caseOf_mem origin tag c hc)) hx
  | _ => exact absurd hx (mistyped_ne_ok _ _ x)

end Decoder

/-! ## Whole documents -/

theorem areWhole_iff {l : List Json} : AreWhole l ↔ ∀ v ∈ l, v.IsWhole := by
  induction l with
  | nil => simp [AreWhole]
  | cons v l ih => simp [AreWhole, ih]

theorem membersAreWhole_iff {l : List (String × Json)} :
    MembersAreWhole l ↔ ∀ e ∈ l, e.2.IsWhole := by
  induction l with
  | nil => simp [MembersAreWhole]
  | cons e l ih => simp [MembersAreWhole, ih]

@[simp] theorem array_isWhole {l : List Json} : (Json.array l).IsWhole ↔ ∀ v ∈ l, v.IsWhole :=
  areWhole_iff

@[simp] theorem object_isWhole {l : List (String × Json)} :
    (Json.object l).IsWhole ↔ ∀ e ∈ l, e.2.IsWhole :=
  membersAreWhole_iff

@[simp] theorem string_isWhole (t : String) : (Json.string t).IsWhole := trivial

@[simp] theorem text?_isWhole (o : Option String) : (text? o).IsWhole := by
  cases o <;> exact trivial

@[simp] theorem orNull_isWhole {w : α → Json} {o : Option α} :
    (orNull w o).IsWhole ↔ ∀ x ∈ o, (w x).IsWhole := by
  cases o <;> simp [orNull, IsWhole]

@[simp] theorem texts_isWhole (l : List String) : (texts l).IsWhole := by
  simp [texts]

@[simp] theorem objectOf_isWhole {l : List (String × Option Json)} :
    (objectOf l).IsWhole ↔ ∀ m ∈ l, ∀ v ∈ m.2, v.IsWhole := by
  simp only [objectOf, object_isWhole, List.mem_filterMap]
  constructor
  · intro h m hm v hv
    exact h (m.1, v) ⟨m, hm, by simp [Option.mem_def.mp hv]⟩
  · rintro h e ⟨m, hm, he⟩
    obtain ⟨v, hv, rfl⟩ := Option.map_eq_some_iff.mp he
    exact h m hm v hv

@[simp] theorem ofTable_isWhole {f : α → Json} {t : Table α} :
    (ofTable f t).IsWhole ↔ ∀ e ∈ t.entries, (f e.2).IsWhole := by
  rw [ofTable, object_isWhole, List.forall_mem_map]

theorem decodeText_compact {d : Decoder α} {v : Json} {x : α} (h : d.Reads v x) (hv : v.IsWhole) :
    decodeText d v.compact = .ok x := by
  obtain ⟨hvalue, htrailing⟩ := Document.ofText_compact hv
  simp only [decodeText, decodePlaced, h .text _ hvalue, htrailing]
  rfl

theorem decodePlaced_of_decodeText {d : Decoder α} {text : String} {x : α}
    (h : decodeText d text = .ok x) : decodePlaced d text = .ok x := by
  unfold decodeText at h
  cases hd : decodePlaced d text with
  | error p =>
    rw [hd] at h
    cases h
  | ok y =>
    rw [hd] at h
    exact congrArg Except.ok (Except.ok.inj h)

theorem decoder_of_decodeText {d : Decoder α} {text : String} {x : α}
    (h : decodeText d text = .ok x) : d .text (Document.ofText text).value = .ok x := by
  obtain ⟨y, hy, h⟩ := bind_ok (decodePlaced_of_decodeText h)
  obtain ⟨-, -, h⟩ := bind_ok h
  obtain rfl := Except.ok.inj h
  exact hy

theorem Decoder.Yields.decodeText {d : Decoder α} {P : α → Prop} (h : d.Yields P) {text : String}
    {x : α} (hx : Json.decodeText d text = .ok x) : P x :=
  h _ _ x (decoder_of_decodeText hx)

end StagedTests.Json
