import StagedTests.Proofs.Parameter.History

/-!
# Links of deferred parameters

A parameter has the links that were given for it until it is fixed, which leaves it without any.
Asking for parameters has no part in that: a value that is kept is not one that is fixed, so
histories that differ only in where parameters are asked for agree in all links that they tell.
-/

namespace StagedTests.DeferredParameters

variable {σ : Type}

namespace SameButKept

variable {p q : DeferredParameters σ}

theorem add (h : SameButKept p q) (name : String) (link : Option StepLink) (f : Provider σ) :
    SameButKept (p.add name link f) (q.add name link f) := by
  obtain ⟨hvalues, hproviders, hlinks⟩ := h
  cases link with
  | none => exact ⟨hvalues, congrArg (·.insert name f) hproviders, hlinks⟩
  | some link =>
    refine ⟨hvalues, congrArg (·.insert name f) hproviders, ?_⟩
    exact congrArg (fun t => t.insert name ((t.get? name).getD [] ++ [link])) hlinks

theorem addAll (h : SameButKept p q) (t : Table (Provider σ)) (link : Option StepLink) :
    SameButKept (p.addAll t link) (q.addAll t link) := by
  unfold DeferredParameters.addAll
  induction t.entries generalizing p q with
  | nil => exact h
  | cons e rest ih => exact ih (h.add e.1 link e.2)

theorem has (h : SameButKept p q) (name : String) : q.has name = p.has name := by
  rw [DeferredParameters.has, h.values, h.providers]
  rfl

/-- Nothing but asking for a parameter looks at the values that are kept. -/
theorem perform (h : SameButKept p q) {op : Operation σ} (hop : op.isGet = false) (s t : σ) :
    (perform op (q, t)).1 = (perform op (p, s)).1 ∧
      SameButKept (DeferredParameters.perform op (p, s)).2.1
        (DeferredParameters.perform op (q, t)).2.1 := by
  cases op with
  | add name link f => exact ⟨rfl, h.add name link f⟩
  | addAll table link => exact ⟨rfl, h.addAll table link⟩
  | set name value =>
    exact ⟨rfl, congrArg (·.insert name value) h.values, h.providers, h.linkLists⟩
  | get name => cases hop
  | has name => exact ⟨congrArg Answer.known (h.has name), h⟩
  | links name => exact ⟨congrArg Answer.links (h.links name), h⟩

/-- Leaving out where parameters are asked for changes no other answer. -/
theorem performAll (h : SameButKept p q) (ops : List (Operation σ)) (s t : σ) :
    (performAll (ops.filter (!·.isGet)) (q, t)).1 =
        (performAll ops (p, s)).1.filter (!·.operation.isGet) ∧
      SameButKept (DeferredParameters.performAll ops (p, s)).2.1
        (DeferredParameters.performAll (ops.filter (!·.isGet)) (q, t)).2.1 := by
  induction ops generalizing p q s t with
  | nil => exact ⟨rfl, h⟩
  | cons op ops ih =>
    cases hop : op.isGet with
    | true =>
      have hkeeps : SameButKept (DeferredParameters.perform op (p, s)).2.1 q := by
        cases op with
        | get name =>
          have hget := p.get_keeps name s
          exact ⟨h.values.trans hget.values.symm, h.providers.trans hget.providers.symm,
            h.linkLists.trans hget.linkLists.symm⟩
        | _ => cases hop
      obtain ⟨hcalls, hstate⟩ := ih hkeeps (DeferredParameters.perform op (p, s)).2.2 t
      rw [List.filter_cons_of_neg (by simp [hop])]
      refine ⟨?_, hstate⟩
      rw [DeferredParameters.performAll, List.filter_cons_of_neg (by simp [hop])]
      exact hcalls
    | false =>
      obtain ⟨hanswer, hkeeps⟩ := h.perform hop s t
      obtain ⟨hcalls, hstate⟩ := ih hkeeps (DeferredParameters.perform op (p, s)).2.2
        (DeferredParameters.perform op (q, t)).2.2
      rw [List.filter_cons_of_pos (by simp [hop])]
      refine ⟨?_, hstate⟩
      rw [DeferredParameters.performAll, DeferredParameters.performAll,
        List.filter_cons_of_pos (by simp [hop])]
      exact congrArg₂ (fun answer calls => ⟨op, answer⟩ :: calls) hanswer hcalls

end SameButKept

/-- A parameter that is fixed has no links, and any other one has those that were given for it.
Histories that differ only in where parameters are asked for agree in all their other answers. -/
theorem performAll_links (ops : List (Operation σ)) (s : σ) :
    (∀ name, let d := deeds name (performAll ops (empty, s)).1
      ((∃ value, Deed.fix value ∈ d) → (performAll ops (empty, s)).2.1.links name = []) ∧
        ((∀ value, Deed.fix value ∉ d) →
          (performAll ops (empty, s)).2.1.links name = linksGiven d)) ∧
      ∀ (ops' : List (Operation σ)) (s' : σ),
        ops'.filter (!·.isGet) = ops.filter (!·.isGet) →
          (performAll ops' (empty, s')).1.filter (!·.operation.isGet) =
              (performAll ops (empty, s)).1.filter (!·.operation.isGet) ∧
            ∀ name, (performAll ops' (empty, s')).2.1.links name =
              (performAll ops (empty, s)).2.1.links name := by
  constructor
  · intro name d
    have hlinks := (performAll_recalls ops s name).links_eq
    constructor
    · intro hfixed
      rw [hlinks, if_pos (lastFixed_isSome_iff.mpr hfixed)]
    · intro hfixed
      have hnot : ¬ (lastFixed d).isSome := by
        rw [lastFixed_isSome_iff]
        rintro ⟨value, hvalue⟩
        exact hfixed value hvalue
      rw [hlinks, if_neg hnot]
  · intro ops' s' hsame
    -- Both histories are compared with the one that is left without the questions.
    have hempty : SameButKept (empty : DeferredParameters σ) empty := ⟨rfl, rfl, rfl⟩
    obtain ⟨hcalls, hkeeps⟩ := hempty.performAll ops s s
    obtain ⟨hcalls', hkeeps'⟩ := hempty.performAll ops' s' s
    rw [hsame] at hcalls' hkeeps'
    refine ⟨hcalls'.symm.trans hcalls, fun name => ?_⟩
    exact (hkeeps'.links name).symm.trans (hkeeps.links name)

end StagedTests.DeferredParameters
