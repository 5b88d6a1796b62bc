import StagedTests.Proofs.Resource.Quantity
import StagedTests.Proofs.Text.ByteOrder
import StagedTests.Resource.Request

/-!
# What a request comes to

A request and its preset are laid over one another resource by resource before any amount is looked
at, so an amount of the preset that the request replaces is never at fault. Of the amounts that are
left the first fault is reported: limits come before requests, and on each side the resources come in
the order of the bytes of their names.
-/

namespace StagedTests

def ResourceRequest.side (r : ResourceRequest) : ResourceSide → Table String
  | .limit => r.limits
  | .request => r.requests

def Requirements.side (r : Requirements) : ResourceSide → Option (Table Quantity)
  | .limit => r.limits
  | .request => r.requests

/-- What is asked for of each resource on each side. -/
abbrev Amounts := ResourceSide → String → Option String

namespace Amounts

/-- The amounts of a request, each in place of that of its base. -/
def merged (base r : ResourceRequest) : Amounts := fun side resource =>
  ((r.side side).get? resource).or ((base.side side).get? resource)

variable (a : Amounts)

/-- All amounts are quantities but for white space at their ends. -/
def Sound : Prop :=
  ∀ side resource amount, a side resource = some amount → Quantity.IsIn amount

def Faulty (side : ResourceSide) (resource amount : String) : Prop :=
  a side resource = some amount ∧ ¬ Quantity.IsIn amount

/-- The fault that comes first: no limit is at fault if it is that of a request, and of its own side
no resource at fault has a name whose bytes come before. -/
structure FirstFault (side : ResourceSide) (resource amount : String) : Prop where
  faulty : a.Faulty side resource amount
  least : ∀ other amount', a.Faulty side other amount' →
    ¬ Text.bytes other < Text.bytes resource
  limits : side = .request → ∀ other amount', ¬ a.Faulty .limit other amount'

/-- The requirements hold the amounts without the white space at their ends. A side on which
nothing is asked for is absent. -/
structure Meets (out : Requirements) : Prop where
  absent : ∀ side, out.side side = none ↔ ∀ resource, a side resource = none
  amounts : ∀ side t, out.side side = some t →
    ∀ resource, t.get? resource = (a side resource).map Quantity.trimmed

end Amounts

namespace Presets

/-! ## The amounts of one side -/

section Side

variable {side : ResourceSide} {l : List (String × String)} {t : Table String}
  {resource amount : String}

theorem checkEntries_of_isIn (h : ∀ e ∈ l, Quantity.IsIn e.2) :
    checkEntries side l = .ok (l.map fun e => (e.1, Quantity.trimmed e.2)) := by
  induction l with
  | nil => rfl
  | cons e l ih =>
    obtain ⟨he, hl⟩ := List.forall_mem_cons.mp h
    rw [checkEntries, Quantity.parse?_of_isIn he, ih hl]
    rfl

theorem checkEntries_of_fault {before after : List (String × String)}
    (hbefore : ∀ e ∈ before, Quantity.IsIn e.2)
    (hfault : ¬ Quantity.IsIn amount) :
    checkEntries side (before ++ (resource, amount) :: after) =
      .error (.invalidQuantity side resource amount) := by
  induction before with
  | nil => rw [List.nil_append, checkEntries, (Quantity.parse?_eq_none_iff amount).mpr hfault]
  | cons e before ih =>
    obtain ⟨he, hbefore⟩ := List.forall_mem_cons.mp hbefore
    rw [List.cons_append, checkEntries, Quantity.parse?_of_isIn he, ih hbefore]
    rfl

def checked (t : Table String) : Option (Table Quantity) :=
  if t.isEmpty then none else some (t.map Quantity.trimmed)

theorem checkSide_of_isIn
    (h : ∀ resource amount, t.get? resource = some amount → Quantity.IsIn amount) :
    checkSide side t = .ok (checked t) := by
  have hentries : ∀ e ∈ t.entries, Quantity.IsIn e.2 :=
    fun e he => h e.1 e.2 ((t.mem_entries_iff e.1 e.2).mp he)
  have htable : Table.ofList (t.entries.map fun e => (e.1, Quantity.trimmed e.2)) =
      t.map Quantity.trimmed :=
    Table.ofList_entries (t.map Quantity.trimmed)
  unfold checkSide checked
  split
  · rfl
  · rw [checkEntries_of_isIn hentries, Except.map, htable]

/-- The entries are checked in the order of their names, so those before the least fault pass. -/
theorem checkSide_of_fault (hresource : t.get? resource = some amount)
    (hfault : ¬ Quantity.IsIn amount)
    (hleast : ∀ other amount', t.get? other = some amount' →
      ¬ Quantity.IsIn amount' → ¬ other < resource) :
    checkSide side t = .error (.invalidQuantity side resource amount) := by
  have hmem := (t.mem_entries_iff resource amount).mpr hresource
  obtain ⟨before, after, hsplit⟩ := List.append_of_mem hmem
  have hbefore : ∀ e ∈ before, Quantity.IsIn e.2 := by
    intro e he
    have hsorted := t.sorted
    rw [hsplit, List.pairwise_append] at hsorted
    have hlt : e.1 < resource := hsorted.2.2 e he _ List.mem_cons_self
    have hget : t.get? e.1 = some e.2 :=
      (t.mem_entries_iff e.1 e.2).mp (hsplit ▸ List.mem_append_left _ he)
    by_contra hin
    exact hleast e.1 e.2 hget hin hlt
  have hne : t.isEmpty = false := by
    rw [Table.isEmpty, hsplit]
    cases before <;> rfl
  rw [checkSide, if_neg (by simp [hne]), hsplit, checkEntries_of_fault hbefore hfault]
  rfl

/-- A fault on a side is one of its least. -/
theorem exists_least (hresource : t.get? resource = some amount)
    (hfault : ¬ Quantity.IsIn amount) :
    ∃ least amount', t.get? least = some amount' ∧ ¬ Quantity.IsIn amount' ∧
      ∀ other amount'', t.get? other = some amount'' →
        ¬ Quantity.IsIn amount'' → ¬ other < least := by
  classical
  have hsome : (t.entries.find? fun e => ¬ Quantity.IsIn e.2).isSome := by
    rw [List.find?_isSome]
    exact ⟨(resource, amount), (t.mem_entries_iff resource amount).mpr hresource, by simpa using hfault⟩
  obtain ⟨e, he⟩ := Option.isSome_iff_exists.mp hsome
  obtain ⟨hin, before, after, hsplit, hbefore⟩ := List.find?_eq_some_iff_append.mp he
  have hget : ∀ e' ∈ t.entries, t.get? e'.1 = some e'.2 :=
    fun e' he' => (t.mem_entries_iff e'.1 e'.2).mp he'
  refine ⟨e.1, e.2, hget e (List.mem_of_find?_eq_some he), by simpa using hin, ?_⟩
  intro other amount'' hother hfaulty hlt
  have hmem := (t.mem_entries_iff other amount'').mpr hother
  have hsorted := t.sorted
  rw [hsplit] at hmem hsorted
  obtain ⟨-, hbehind, -⟩ := List.pairwise_append.mp hsorted
  rcases List.mem_append.mp hmem with hmem | hmem
  · exact absurd (hbefore _ hmem) (by simpa using hfaulty)
  · rcases List.mem_cons.mp hmem with rfl | hmem
    · exact String.lt_irrefl _ hlt
    · exact String.lt_asymm hlt ((List.pairwise_cons.mp hbehind).1 _ hmem)

theorem checked_eq_none_iff : checked t = none ↔ ∀ resource, t.get? resource = none := by
  have hempty : t.isEmpty = true ↔ ∀ resource, t.get? resource = none := by
    constructor
    · intro h resource
      simp [Table.get?, List.isEmpty_iff.mp h]
    · intro h
      refine List.isEmpty_iff.mpr (List.eq_nil_iff_forall_not_mem.mpr fun e he => ?_)
      have hget := (t.mem_entries_iff e.1 e.2).mp he
      rw [h] at hget
      cases hget
  unfold checked
  split <;> simp_all

theorem checked_get? {checkedTable : Table Quantity} (h : checked t = some checkedTable)
    (resource : String) :
    checkedTable.get? resource = (t.get? resource).map Quantity.trimmed := by
  unfold checked at h
  split at h
  · cases h
  · obtain rfl := Option.some.inj h
    exact t.get?_map _ resource

end Side

/-! ## Both sides -/

variable (p : Presets) (r : ResourceRequest) {base : ResourceRequest}

/-- What a request builds upon: the preset that it names, or nothing. A preset that it names and
that is not there leaves it without a base. -/
def base? : Option ResourceRequest :=
  match r.preset with
  | none => some .empty
  | some name => p.get? name

def mergedTable (base r : ResourceRequest) (side : ResourceSide) : Table String :=
  (base.side side).override (r.side side)

theorem mergedTable_get? (base r : ResourceRequest) (side : ResourceSide) (resource : String) :
    (mergedTable base r side).get? resource = Amounts.merged base r side resource :=
  Table.get?_override _ _ _

theorem requirements_of_base (h : p.base? r = some base) :
    p.requirements r = (do
      let limits ← checkSide .limit (mergedTable base r .limit)
      let requests ← checkSide .request (mergedTable base r .request)
      .ok ⟨limits, requests⟩) := by
  unfold base? at h
  unfold requirements
  cases hpreset : r.preset with
  | none =>
    rw [hpreset] at h
    obtain rfl := Option.some.inj h
    rfl
  | some name =>
    rw [hpreset] at h
    simp only [h]
    rfl

theorem requirements_of_unknown {name : String} (hpreset : r.preset = some name)
    (hname : p.get? name = none) : p.requirements r = .error (.unknownPreset name) := by
  unfold requirements
  simp only [hpreset, hname]
  rfl

theorem base?_eq_none_iff : p.base? r = none ↔ ∃ name, r.preset = some name ∧ p.get? name = none := by
  unfold base?
  cases r.preset with
  | none => simp
  | some name => simp

variable {side : ResourceSide} {resource amount : String}

theorem checkSide_of_noFault
    (h : ∀ resource amount, ¬ (Amounts.merged base r).Faulty side resource amount) :
    checkSide side (mergedTable base r side) = .ok (checked (mergedTable base r side)) := by
  apply checkSide_of_isIn
  intro resource amount hget
  rw [mergedTable_get?] at hget
  by_contra hfault
  exact h resource amount ⟨hget, hfault⟩

theorem checkSide_of_firstFault (h : (Amounts.merged base r).FirstFault side resource amount) :
    checkSide side (mergedTable base r side) = .error (.invalidQuantity side resource amount) := by
  obtain ⟨⟨hget, hfault⟩, hleast, -⟩ := h
  apply checkSide_of_fault (by rwa [mergedTable_get?]) hfault
  intro other amount' hother hfaulty
  rw [mergedTable_get?] at hother
  rw [Text.lt_iff_bytes_lt]
  exact hleast other amount' ⟨hother, hfaulty⟩

theorem requirements_of_sound (h : p.base? r = some base) (hsound : (Amounts.merged base r).Sound) :
    p.requirements r =
      .ok ⟨checked (mergedTable base r .limit), checked (mergedTable base r .request)⟩ := by
  have hside : ∀ side resource amount, ¬ (Amounts.merged base r).Faulty side resource amount :=
    fun side resource amount hfaulty => hfaulty.2 (hsound side resource amount hfaulty.1)
  rw [p.requirements_of_base r h, checkSide_of_noFault r (hside .limit),
    checkSide_of_noFault r (hside .request)]
  rfl

theorem requirements_of_firstFault (h : p.base? r = some base)
    (hfirst : (Amounts.merged base r).FirstFault side resource amount) :
    p.requirements r = .error (.invalidQuantity side resource amount) := by
  rw [p.requirements_of_base r h]
  cases side with
  | limit =>
    rw [checkSide_of_firstFault r hfirst]
    rfl
  | request =>
    rw [checkSide_of_noFault r (hfirst.limits rfl), checkSide_of_firstFault r hfirst]
    rfl

theorem exists_firstFault_on (h : (Amounts.merged base r).Faulty side resource amount)
    (hlimits : side = .request → ∀ other amount', ¬ (Amounts.merged base r).Faulty .limit other amount') :
    ∃ resource amount, (Amounts.merged base r).FirstFault side resource amount := by
  obtain ⟨hget, hfault⟩ := h
  rw [← mergedTable_get?] at hget
  obtain ⟨least, amount', hmem, hfaulty, hleast⟩ := exists_least hget hfault
  rw [mergedTable_get?] at hmem
  refine ⟨least, amount', ⟨hmem, hfaulty⟩, ?_, hlimits⟩
  intro other amount'' hother
  rw [← Text.lt_iff_bytes_lt]
  exact hleast other amount'' (by rw [mergedTable_get?]; exact hother.1) hother.2

theorem sound_or_firstFault (base r : ResourceRequest) :
    (Amounts.merged base r).Sound ∨
      ∃ side resource amount, (Amounts.merged base r).FirstFault side resource amount := by
  by_cases hlimit : ∃ resource amount, (Amounts.merged base r).Faulty .limit resource amount
  · obtain ⟨resource, amount, h⟩ := hlimit
    exact .inr ⟨.limit, exists_firstFault_on r h (fun hside => nomatch hside)⟩
  · have hlimits : ∀ resource amount, ¬ (Amounts.merged base r).Faulty .limit resource amount :=
      fun resource amount h => hlimit ⟨resource, amount, h⟩
    by_cases hrequest : ∃ resource amount, (Amounts.merged base r).Faulty .request resource amount
    · obtain ⟨resource, amount, h⟩ := hrequest
      exact .inr ⟨.request, exists_firstFault_on r h fun _ => hlimits⟩
    · left
      intro side resource amount hget
      by_contra hfault
      cases side with
      | limit => exact hlimits resource amount ⟨hget, hfault⟩
      | request => exact hrequest ⟨resource, amount, hget, hfault⟩

theorem meets_checked (base r : ResourceRequest) :
    (Amounts.merged base r).Meets
      ⟨checked (mergedTable base r .limit), checked (mergedTable base r .request)⟩ := by
  have hside : ∀ side, (⟨checked (mergedTable base r .limit), checked (mergedTable base r .request)⟩ :
      Requirements).side side = checked (mergedTable base r side) := by
    intro side
    cases side <;> rfl
  constructor
  · intro side
    simp only [hside, checked_eq_none_iff, mergedTable_get?]
  · intro side t ht resource
    rw [hside] at ht
    rw [checked_get? ht, mergedTable_get?]

/-- What becomes of a request that has its base. -/
structure Settles (base : ResourceRequest) : Prop where
  ok_iff : (∃ out, p.requirements r = .ok out) ↔ (Amounts.merged base r).Sound
  met : ∀ out, p.requirements r = .ok out → (Amounts.merged base r).Meets out
  refused : ∀ e, p.requirements r = .error e ↔ ∃ side resource amount,
    e = .invalidQuantity side resource amount ∧
      (Amounts.merged base r).FirstFault side resource amount
  /-- What is asked of the base where the request has an amount of its own does not matter. -/
  overridden : (∀ side resource amount, (r.side side).get? resource = some amount ∨
      (r.side side).get? resource = none ∧ (base.side side).get? resource = some amount →
        Quantity.IsIn amount) → ∃ out, p.requirements r = .ok out

theorem settles (h : p.base? r = some base) : p.Settles r base := by
  have hok : (∃ out, p.requirements r = .ok out) ↔ (Amounts.merged base r).Sound := by
    constructor
    · intro hread
      obtain ⟨out, hout⟩ := hread
      rcases sound_or_firstFault base r with hsound | ⟨side, resource, amount, hfirst⟩
      · exact hsound
      · cases hout.symm.trans (p.requirements_of_firstFault r h hfirst)
    · intro hsound
      exact ⟨_, p.requirements_of_sound r h hsound⟩
  refine ⟨hok, ?_, ?_, ?_⟩
  · intro out hout
    have hsound := hok.mp ⟨out, hout⟩
    obtain rfl := Except.ok.inj (hout.symm.trans (p.requirements_of_sound r h hsound))
    exact meets_checked base r
  · intro e
    constructor
    · intro he
      rcases sound_or_firstFault base r with hsound | ⟨side, resource, amount, hfirst⟩
      · cases he.symm.trans (p.requirements_of_sound r h hsound)
      · have hrefused := p.requirements_of_firstFault r h hfirst
        exact ⟨side, resource, amount, Except.error.inj (he.symm.trans hrefused), hfirst⟩
    · rintro ⟨side, resource, amount, rfl, hfirst⟩
      exact p.requirements_of_firstFault r h hfirst
  · intro hin
    apply hok.mpr
    intro side resource amount hget
    apply hin side resource amount
    unfold Amounts.merged at hget
    cases hown : (r.side side).get? resource with
    | none => exact .inr ⟨rfl, by rwa [hown, Option.none_or] at hget⟩
    | some own => exact .inl (by rwa [hown, Option.some_or] at hget)

/-- A request is refused for its preset if and only if that is not there. Otherwise its amounts and
those of the preset that it does not replace are what is checked and what is answered. -/
theorem requirements_settled :
    (∀ name, p.requirements r = .error (.unknownPreset name) ↔
      r.preset = some name ∧ p.get? name = none) ∧
    ∀ base, p.base? r = some base → p.Settles r base := by
  constructor
  · intro name
    constructor
    · intro h
      cases hbase : p.base? r with
      | none =>
        obtain ⟨name', hpreset, hname⟩ := (p.base?_eq_none_iff r).mp hbase
        cases h.symm.trans (p.requirements_of_unknown r hpreset hname)
        exact ⟨hpreset, hname⟩
      | some base =>
        obtain ⟨side, resource, amount, he, -⟩ := ((p.settles r hbase).refused _).mp h
        cases he
    · intro h
      exact p.requirements_of_unknown r h.1 h.2
  · intro base h
    exact p.settles r h

/-- A limit of the preset that is no quantity is at fault where the request leaves it, and only
there. -/
theorem requirements_settled_replaced :
    let base := ResourceRequest.empty |>.withLimit "cpu" "lots" |>.withLimit "memory" " 4Gi "
    let p := Presets.empty.withPreset "odd" base
    let plain := ResourceRequest.ofPreset "odd"
    let replacing := plain.withLimit "cpu" "2"
    let out : Requirements := ⟨some (Table.ofList [("cpu", ⟨"2"⟩), ("memory", ⟨"4Gi"⟩)]), none⟩
    p.requirements (.ofPreset "even") = .error (.unknownPreset "even") ∧
      p.requirements plain = .error (.invalidQuantity .limit "cpu" "lots") ∧
      (Amounts.merged base plain).FirstFault .limit "cpu" "lots" ∧
      p.requirements replacing = .ok out ∧ (Amounts.merged base replacing).Sound ∧
      (Amounts.merged base replacing).Meets out := by
  intro base p plain replacing out
  have hunknown := ((p.requirements_settled (.ofPreset "even")).1 "even").mpr ⟨rfl, by decide⟩
  have hplain := (p.requirements_settled plain).2 base (by decide +kernel)
  have hreplacing := (p.requirements_settled replacing).2 base (by decide +kernel)
  have hrefused : p.requirements plain = .error (.invalidQuantity .limit "cpu" "lots") := by
    decide +kernel
  have hout : p.requirements replacing = .ok out := by decide +kernel
  obtain ⟨side, resource, amount, he, hfirst⟩ := (hplain.refused _).mp hrefused
  cases he
  exact ⟨hunknown, hrefused, hfirst, hout, hreplacing.ok_iff.mp ⟨out, hout⟩,
    hreplacing.met out hout⟩

end Presets

end StagedTests
