import StagedTests.Proofs.Cluster.Honest
import StagedTests.Proofs.Run.Journal

/-!
# Deletion behind a cancellation

The watcher of a phase deletes the pods of the test once, when it first gets its turn behind the
cancellation. The journal shows which pods were created behind that deletion, and an invariant of
the worlds of a phase says that these are all that can be left once it has come.
-/

namespace StagedTests

variable {σ : Type}

namespace Entry

def creation? : Entry → Option String
  | .answered (.createPod p) none => some p.name
  | _ => none

def isCleanup (selector : String) : Entry → Bool
  | .answered (.deletePods s) none => s == selector
  | _ => false

end Entry

def createdIn (log : List Entry) : List String := log.filterMap Entry.creation?

def cleanedIn (selector : String) (log : List Entry) : Bool := log.any (Entry.isCleanup selector)

/-- The names of the pods created behind the first deletion of all pods of a selector. -/
def createdLate (selector : String) : List Entry → List String
  | [] => []
  | e :: rest => if e.isCleanup selector then createdIn rest else createdLate selector rest

def cleanup (selector : String) : List Entry :=
  [.called (.deletePods selector), .answered (.deletePods selector) none]

section

variable {selector : String} {log : List Entry}

theorem createdIn_append (l m : List Entry) : createdIn (l ++ m) = createdIn l ++ createdIn m :=
  List.filterMap_append

theorem cleanedIn_append (l m : List Entry) :
    cleanedIn selector (l ++ m) = (cleanedIn selector l || cleanedIn selector m) :=
  List.any_append

variable (selector) in
theorem createdLate_append (l m : List Entry) :
    createdLate selector (l ++ m) =
      if cleanedIn selector l then createdLate selector l ++ createdIn m
      else createdLate selector m := by
  induction l with
  | nil => rfl
  | cons e l ih =>
    simp only [List.cons_append, createdLate, cleanedIn, List.any_cons] at ih ⊢
    by_cases he : e.isCleanup selector = true
    · simp [he, createdIn_append]
    · simpa [he] using ih

theorem createdLate_of_not_cleaned (h : cleanedIn selector log = false) :
    createdLate selector log = [] := by
  have hnil := createdLate_append selector log []
  rw [List.append_nil, h] at hnil
  exact hnil

theorem createdIn_append_cleanup : createdIn (log ++ cleanup selector) = createdIn log := by
  rw [createdIn_append]
  exact List.append_nil _

theorem cleanedIn_append_cleanup : cleanedIn selector (log ++ cleanup selector) = true := by
  simp [cleanedIn, cleanup, Entry.isCleanup]

/-- Nothing has been created behind a deletion that has just come. -/
theorem createdLate_append_cleanup (h : cleanedIn selector log = false) :
    createdLate selector (log ++ cleanup selector) = [] := by
  rw [createdLate_append, h]
  simp [createdLate, cleanup, Entry.isCleanup, createdIn]

theorem createdLate_subset (log : List Entry) :
    createdLate selector log ⊆ createdIn log := by
  induction log with
  | nil => exact List.Subset.refl _
  | cons e rest ih =>
    have hrest : createdIn rest ⊆ createdIn (e :: rest) := by
      rw [← List.singleton_append, createdIn_append]
      exact List.subset_append_right _ _
    unfold createdLate
    split
    · exact hrest
    · exact List.Subset.trans ih hrest

end

/-! ## What is known of the pods while a phase is open -/

/-- The phase has made the log. Pods that it created are selected, and they are gone once the
deletion has come unless they were created behind it. As long as the first watcher waits it has not
come, and it comes where it is called for; all other watchers cancel observers. -/
structure Sweeping (pod? : σ → String → Option Pod) (selector : String) (before : List Entry)
    (depth : Nat) (log : List Entry) (w : World σ) : Prop where
  journal : w.journal = before ++ log
  selected : ∀ name ∈ createdIn log, ∀ x, pod? w.cluster name = some x →
    Selector.selects selector x = true
  swept : cleanedIn selector log = true → ∀ name ∈ createdIn log, pod? w.cluster name ≠ none →
    name ∈ createdLate selector log
  cancelled : cleanedIn selector log = true → w.token.isCancelled = true
  called : selector ∈ selectorsIn log → cleanedIn selector log = true
  depth_eq : w.watchers.length = depth
  watcher : ∃ watch, w.watchers[0]? = some ⟨.deletePods selector, watch⟩ ∧
    (watch = .waiting → cleanedIn selector log = false)
  others : ∀ i x, w.watchers[i + 1]? = some x → x.reaction = .cancelObserver

def Swept (pod? : σ → String → Option Pod) (selector : String) (before : List Entry)
    (depth : Nat) (w : World σ) : Prop :=
  ∃ log, Sweeping pod? selector before depth log w ∧ createdLate selector log = []

/-- One pod was created behind the deletion and is still there. Calls need not keep this, but none
is made any more. -/
def Missed (pod? : σ → String → Option Pod) (selector : String) (before : List Entry)
    (depth : Nat) (w : World σ) : Prop :=
  ∃ log name, Sweeping pod? selector before depth log w ∧ createdLate selector log = [name] ∧
    pod? w.cluster name ≠ none

section

variable {env : Surroundings σ} {pod? : σ → String → Option Pod} {selector : String}
  {before log : List Entry} {depth : Nat} {w w' : World σ}

/-- The world goes on, and neither are pods created nor those of the selector deleted. -/
structure Uneventful (pod? : σ → String → Option Pod) (selector : String) (w w' : World σ) :
    Prop where
  journal : ∃ m, w'.journal = w.journal ++ m ∧ createdIn m = [] ∧ cleanedIn selector m = false ∧
    selectorsIn m = []
  pods : ∀ name x, pod? w'.cluster name = some x → pod? w.cluster name = some x
  cancelled : w.token.isCancelled = true → w'.token.isCancelled = true
  watchers : w'.watchers = w.watchers

/-- What a part of the journal without creations and deletions leaves as it was. -/
theorem createdLate_append_of_uneventful (log : List Entry) {m : List Entry} (hm : createdIn m = [])
    (hm' : cleanedIn selector m = false) :
    createdLate selector (log ++ m) = createdLate selector log := by
  rw [createdLate_append, hm, List.append_nil, createdLate_of_not_cleaned hm']
  split
  · rfl
  · rename_i h
    exact (createdLate_of_not_cleaned (Bool.eq_false_iff.mpr h)).symm

theorem Sweeping.of_uneventful (h : Sweeping pod? selector before depth log w)
    (hu : Uneventful pod? selector w w') :
    ∃ log', Sweeping pod? selector before depth log' w' ∧
      createdLate selector log' = createdLate selector log := by
  obtain ⟨m, hjournal, hm, hm', hselectors⟩ := hu.journal
  have hlate := createdLate_append_of_uneventful log hm hm'
  have hcreated : createdIn (log ++ m) = createdIn log := by
    rw [createdIn_append, hm, List.append_nil]
  have hcleaned : cleanedIn selector (log ++ m) = cleanedIn selector log := by
    rw [cleanedIn_append, hm', Bool.or_false]
  refine ⟨log ++ m, ⟨?_, ?_, ?_, ?_, ?_, ?_, ?_, ?_⟩, hlate⟩
  · rw [hjournal, h.journal, List.append_assoc]
  · rw [hcreated]
    exact fun name hname x hx => h.selected name hname x (hu.pods name x hx)
  · rw [hcreated, hcleaned, hlate]
    intro hc name hname hne
    obtain ⟨x, hx⟩ := Option.ne_none_iff_exists'.mp hne
    exact h.swept hc name hname (by rw [hu.pods name x hx]; exact Option.some_ne_none x)
  · rw [hcleaned]
    exact fun hc => hu.cancelled (h.cancelled hc)
  · rw [selectorsIn_append, hselectors, List.append_nil, hcleaned]
    exact h.called
  · rw [hu.watchers, h.depth_eq]
  · rw [hu.watchers, hcleaned]
    exact h.watcher
  · rw [hu.watchers]
    exact h.others

theorem Swept.of_uneventful (h : Swept pod? selector before depth w)
    (hu : Uneventful pod? selector w w') : Swept pod? selector before depth w' := by
  obtain ⟨log, hs, hlate⟩ := h
  obtain ⟨log', hs', hlate'⟩ := hs.of_uneventful hu
  exact ⟨log', hs', hlate'.trans hlate⟩

theorem Missed.of_uneventful (h : Missed pod? selector before depth w)
    (hu : Uneventful pod? selector w w')
    (hpods : ∀ name, pod? w'.cluster name = pod? w.cluster name) :
    Missed pod? selector before depth w' := by
  obtain ⟨log, name, hs, hlate, hpod⟩ := h
  obtain ⟨log', hs', hlate'⟩ := hs.of_uneventful hu
  exact ⟨log', name, hs', hlate'.trans hlate, by rwa [hpods]⟩

theorem Missed.isCancelled (h : Missed pod? selector before depth w) :
    w.token.isCancelled = true := by
  obtain ⟨log, name, hs, hlate, -⟩ := h
  refine hs.cancelled ?_
  cases hc : cleanedIn selector log with
  | true => rfl
  | false =>
    rw [createdLate_of_not_cleaned hc] at hlate
    cases hlate

/-! ## What others do -/

theorem Sweeping.set (h : Sweeping pod? selector before depth log w) (i : Nat) (watch : Watch) :
    Sweeping pod? selector before depth log
      { w with watchers := w.watchers.set (i + 1) ⟨.cancelObserver, watch⟩ } := by
  obtain ⟨first, hfirst, hwaiting⟩ := h.watcher
  refine ⟨h.journal, h.selected, h.swept, h.cancelled, h.called, ?_, ⟨first, ?_, hwaiting⟩,
    fun j x hx => ?_⟩
  · exact (List.length_set ..).trans h.depth_eq
  · exact (List.getElem?_set_ne (Nat.succ_ne_zero i)).trans hfirst
  · dsimp only at hx
    by_cases hij : i + 1 = j + 1
    · rw [hij, List.getElem?_set_self'] at hx
      obtain ⟨_, -, rfl⟩ := Option.map_eq_some_iff.mp hx
      rfl
    · rw [List.getElem?_set_ne hij] at hx
      exact h.others j x hx

theorem Sweeping.release (h : Sweeping pod? selector before depth log w) :
    Sweeping pod? selector before depth log
      { w with watchers := w.watchers.set 0 ⟨.deletePods selector, .released⟩ } := by
  obtain ⟨first, hfirst, -⟩ := h.watcher
  obtain ⟨hzero, -⟩ := List.getElem?_eq_some_iff.mp hfirst
  refine ⟨h.journal, h.selected, h.swept, h.cancelled, h.called, ?_,
    ⟨.released, List.getElem?_set_self hzero, fun h => absurd h (by decide)⟩, fun j x hx => ?_⟩
  · exact (List.length_set ..).trans h.depth_eq
  · exact h.others j x (by rwa [List.getElem?_set_ne (Nat.succ_ne_zero j).symm] at hx)

/-- The deletion comes: none of the pods that the phase has created is left. -/
theorem Sweeping.react (hc : HonestCluster env pod?)
    (h : Sweeping pod? selector before depth log w) (hcancelled : w.token.isCancelled = true) :
    (env.react w (.deletePods selector)).2 = .reacted ∧
    Sweeping pod? selector before depth (log ++ cleanup selector)
      { (env.react w (.deletePods selector)).1 with
        watchers := w.watchers.set 0 ⟨.deletePods selector, .reacted⟩ } := by
  obtain ⟨first, hfirst, -⟩ := h.watcher
  obtain ⟨hzero, -⟩ := List.getElem?_eq_some_iff.mp hfirst
  obtain ⟨s', hs', hpods⟩ := hc.swept selector w.cluster
  have hreact : env.react w (.deletePods selector) =
      ({ (w.note (.called (.deletePods selector))) with cluster := s' }.note
        (.answered (.deletePods selector) none), .reacted) := by
    simp only [Surroundings.react, World.answer_of_answered (.deletePods selector)
      (w := w.note (.called (.deletePods selector))) hs']
    rfl
  have hnone : ∀ name ∈ createdIn log, pod? s' name = none := by
    intro name hname
    rw [hpods, Option.filter_eq_none_iff]
    exact fun x hx => by simp [h.selected name hname x hx]
  rw [hreact]
  refine ⟨rfl, ?_, ?_, ?_, fun _ => hcancelled, fun _ => cleanedIn_append_cleanup, ?_,
    ⟨.reacted, List.getElem?_set_self hzero, fun h => absurd h (by decide)⟩, fun j x hx => ?_⟩
  · simp [World.note, h.journal, cleanup]
  · rw [createdIn_append_cleanup]
    exact fun name hname x hx => by cases (hnone name hname).symm.trans hx
  · rw [createdIn_append_cleanup]
    exact fun _ name hname hne => absurd (hnone name hname) hne
  · exact (List.length_set ..).trans h.depth_eq
  · exact h.others j x (by rwa [List.getElem?_set_ne (Nat.succ_ne_zero j).symm] at hx)

/-- A turn of a watcher: the first one may delete the pods, which it does only once. -/
theorem Sweeping.turn (hc : HonestCluster env pod?)
    (h : Sweeping pod? selector before depth log w) (i : Nat) :
    Sweeping pod? selector before depth log (env.turn w i) ∧
        (env.turn w i).cluster = w.cluster ∨
      cleanedIn selector log = false ∧
        Sweeping pod? selector before depth (log ++ cleanup selector) (env.turn w i) := by
  -- The first watcher is that of the phase, all others are those of pods.
  have hfirst : ∀ {reaction}, w.watchers[0]? = some ⟨reaction, .waiting⟩ →
      reaction = .deletePods selector ∧ cleanedIn selector log = false := by
    intro reaction hi
    obtain ⟨watch, hx, hwaiting⟩ := h.watcher
    rw [hx] at hi
    cases hi
    exact ⟨rfl, hwaiting rfl⟩
  rcases env.turn_cases w i with ⟨heq, -⟩ | ⟨reaction, hi, hcancelled, heq⟩ |
    ⟨reaction, hi, -, -, heq⟩
  · rw [heq]
    exact .inl ⟨h, rfl⟩
  · rw [heq]
    cases i with
    | zero =>
      obtain ⟨rfl, hcleaned⟩ := hfirst hi
      obtain ⟨hreacted, hsweeping⟩ := h.react hc hcancelled
      rw [hreacted]
      exact .inr ⟨hcleaned, hsweeping⟩
    | succ i =>
      obtain rfl : reaction = .cancelObserver := h.others i _ hi
      exact .inl ⟨{ h.set i .reacted with }, rfl⟩
  · rw [heq]
    cases i with
    | zero =>
      obtain ⟨rfl, -⟩ := hfirst hi
      exact .inl ⟨h.release, rfl⟩
    | succ i =>
      obtain rfl : reaction = .cancelObserver := h.others i _ hi
      exact .inl ⟨h.set i .released, rfl⟩

theorem Swept.turn (hc : HonestCluster env pod?) (h : Swept pod? selector before depth w)
    (i : Nat) : Swept pod? selector before depth (env.turn w i) := by
  obtain ⟨log, hs, hlate⟩ := h
  rcases hs.turn hc i with ⟨hs', -⟩ | ⟨hcleaned, hs'⟩
  · exact ⟨log, hs', hlate⟩
  · exact ⟨_, hs', createdLate_append_cleanup hcleaned⟩

theorem Missed.turn (hc : HonestCluster env pod?) (h : Missed pod? selector before depth w)
    (i : Nat) : Missed pod? selector before depth (env.turn w i) := by
  obtain ⟨log, name, hs, hlate, hpod⟩ := h
  rcases hs.turn hc i with ⟨hs', hcluster⟩ | ⟨hcleaned, -⟩
  · exact ⟨log, name, hs', hlate, by rwa [hcluster]⟩
  -- The pod was missed because the deletion had come, and it comes only once.
  · rw [createdLate_of_not_cleaned hcleaned] at hlate
    cases hlate

/-! ## What a run does about one pod -/

theorem Uneventful.of_journal_eq (hjournal : w'.journal = w.journal)
    (hpods : ∀ name x, pod? w'.cluster name = some x → pod? w.cluster name = some x)
    (htoken : w'.token = w.token) (hwatchers : w'.watchers = w.watchers) :
    Uneventful pod? selector w w' where
  journal := ⟨[], by rw [hjournal, List.append_nil], rfl, rfl, rfl⟩
  pods := hpods
  cancelled := fun h => by rwa [htoken]
  watchers := hwatchers

theorem Uneventful.of_eq (hcluster : w'.cluster = w.cluster) (hjournal : w'.journal = w.journal)
    (htoken : w'.token = w.token) (hwatchers : w'.watchers = w.watchers) :
    Uneventful pod? selector w w' :=
  .of_journal_eq hjournal (fun _ _ h => by rwa [hcluster] at h) htoken hwatchers

theorem Uneventful.note (w : World σ) {e : Entry} (he : e.creation? = none)
    (he' : e.isCleanup selector = false) (hselectors : selectorsIn [e] = []) :
    Uneventful pod? selector w (w.note e) where
  journal := ⟨[e], rfl, by simp [createdIn, he], by simp [cleanedIn, he'], hselectors⟩
  pods := fun _ _ h => h
  cancelled := id
  watchers := rfl

theorem Uneventful.answer {α : Type} (w : World σ) {c : Call} {op : σ → Reply α × σ}
    (hpods : ∀ name x, pod? (op w.cluster).2 name = some x → pod? w.cluster name = some x)
    (hcall : ∀ problem, (Entry.answered c problem).creation? = none ∧
      (Entry.answered c problem).isCleanup selector = false) :
    Uneventful pod? selector w (w.answer c op).2 := by
  rcases h : op w.cluster with ⟨reply, s⟩
  rw [h] at hpods
  cases reply with
  | hangs =>
    rw [World.answer_of_hangs c h]
    exact .of_journal_eq rfl hpods rfl rfl
  | answered a =>
    rw [World.answer_of_answered c h]
    obtain ⟨hcreation, hcleanup⟩ := hcall (Reply.answered a).problem?
    have hnote : Uneventful pod? selector { w with cluster := s }
        ({ w with cluster := s }.note (.answered c (Reply.answered a).problem?)) :=
      .note _ hcreation hcleanup rfl
    exact ⟨hnote.journal, hpods, id, rfl⟩

theorem Uneventful.cancel (w : World σ) (reason : String) :
    Uneventful pod? selector w (w.cancel reason) := by
  unfold World.cancel
  split
  · exact .of_eq rfl rfl rfl rfl
  · exact ⟨⟨[.cancelled reason], rfl, rfl, rfl, rfl⟩, fun _ _ h => h,
      fun _ => w.token.isCancelled_cancel reason, rfl⟩

variable (selector before depth)

theorem keptByEvents_swept (hc : HonestCluster env pod?) :
    KeptByEvents env Call.NoSelector (Swept pod? selector before depth) where
  meanwhile := fun m w hw => hw.of_uneventful
    (.of_journal_eq rfl (fun name x h => by rwa [hc.meanwhile] at h) rfl rfl)
  happen := fun x w hw => by
    cases x with
    | cancel reason => exact hw.of_uneventful (.cancel w reason)
    | turn i => exact hw.turn hc i
    | cancelObserver => exact hw.of_uneventful (.of_eq rfl rfl rfl rfl)
  commands := fun _ _ _ => rfl
  called := fun _ w hc hw => hw.of_uneventful (.note w rfl rfl hc.selectorsIn)
  warned := fun _ w hw => hw.of_uneventful (.note w rfl rfl rfl)
  getPod := fun name w _ hw => hw.of_uneventful
    (.answer w (fun other x h => by rwa [hc.get] at h) fun _ => ⟨rfl, rfl⟩)
  deletePod := fun name w _ hw => hw.of_uneventful
    (.answer w (fun other x h => hc.delete name _ other x h) fun _ => ⟨rfl, rfl⟩)
  exec := fun pod container words w hw => hw.of_uneventful
    (.answer w (fun other x h => by rwa [hc.exec] at h) fun _ => ⟨rfl, rfl⟩)
  disk := fun _ _ hw => hw.of_uneventful (.of_eq rfl rfl rfl rfl)
  racing := fun _ _ hw => hw.of_uneventful (.of_eq rfl rfl rfl rfl)
  collecting := fun _ _ hw => hw.of_uneventful (.of_eq rfl rfl rfl rfl)
  nested := fun _ _ hw => hw.of_uneventful (.of_eq rfl rfl rfl rfl)
  delivered := fun e _ hw => hw.of_uneventful
    ⟨⟨[.delivered e], rfl, rfl, rfl, rfl⟩, fun _ _ h => h, id, rfl⟩

theorem keptAtPauses_missed (hc : HonestCluster env pod?) :
    KeptAtPauses env (Missed pod? selector before depth) where
  meanwhile := fun m w hw => hw.of_uneventful
    (.of_journal_eq rfl (fun name x h => by rwa [hc.meanwhile] at h) rfl rfl)
    fun name => hc.meanwhile _ _ _ name
  happen := fun x w hw => by
    cases x with
    | cancel reason =>
      refine hw.of_uneventful (.cancel w reason) fun name => ?_
      simp only [Surroundings.happen, World.cancel]
      split <;> rfl
    | turn i => exact hw.turn hc i
    | cancelObserver => exact hw.of_uneventful (.of_eq rfl rfl rfl rfl) fun _ => rfl

/-- The pods of the phase are gone, but for one that may have been missed. -/
def Tidied (pod? : σ → String → Option Pod) (selector : String) (before : List Entry)
    (depth : Nat) (w : World σ) : Prop :=
  Swept pod? selector before depth w ∨ Missed pod? selector before depth w

theorem Tidied.of_uneventful {selector : String} {before : List Entry} {depth : Nat}
    (h : Tidied pod? selector before depth w) (hu : Uneventful pod? selector w w')
    (hpods : ∀ name, pod? w'.cluster name = pod? w.cluster name) :
    Tidied pod? selector before depth w' :=
  h.imp (fun hs => hs.of_uneventful hu) fun hm => hm.of_uneventful hu hpods

theorem keptAtPauses_tidied (hc : HonestCluster env pod?) :
    KeptAtPauses env (Tidied pod? selector before depth) where
  meanwhile := fun m w hw => hw.imp ((keptByEvents_swept selector before depth hc).meanwhile m w)
    ((keptAtPauses_missed selector before depth hc).meanwhile m w)
  happen := fun x w hw => hw.imp ((keptByEvents_swept selector before depth hc).happen x w)
    ((keptAtPauses_missed selector before depth hc).happen x w)

variable {selector before depth}

/-- A pod is created: it is missed if the deletion has already come. -/
theorem Swept.create (hc : HonestCluster env pod?) (h : Swept pod? selector before depth w)
    {pod answer : Pod} (hselects : Selector.selects selector pod = true) {s : σ}
    (hcreate : env.pods.create pod w.cluster = (.answered (.ok answer), s)) :
    Tidied pod? selector before depth
      ({ w with cluster := s }.note (.answered (.createPod pod) none)) := by
  obtain ⟨log, hs, hlate⟩ := h
  have hpods := hc.created pod _ _ _ hcreate
  have hcreated : createdIn (log ++ [.answered (.createPod pod) none]) =
      createdIn log ++ [pod.name] := createdIn_append ..
  have hcleaned : cleanedIn selector (log ++ [.answered (.createPod pod) none]) =
      cleanedIn selector log := by
    rw [cleanedIn_append]
    exact Bool.or_false _
  have hlate' : createdLate selector (log ++ [.answered (.createPod pod) none]) =
      if cleanedIn selector log then [pod.name] else [] := by
    rw [createdLate_append, hlate]
    rfl
  have hsweeping : Sweeping pod? selector before depth
      (log ++ [.answered (.createPod pod) none])
      ({ w with cluster := s }.note (.answered (.createPod pod) none)) := by
    refine ⟨?_, ?_, ?_, ?_, ?_, hs.depth_eq, ?_, hs.others⟩
    · simp [World.note, hs.journal]
    · intro name hname x hx
      have hx := (hpods name).symm.trans hx
      split at hx
      · cases hx
        exact hselects
      · rename_i hne
        rw [hcreated] at hname
        exact hs.selected name (by simpa [Ne.symm hne] using hname) x hx
    · rw [hcleaned, hlate', hcreated]
      intro hc name hname hpod
      rw [if_pos hc]
      by_cases heq : pod.name = name
      · rw [heq]
        exact List.mem_singleton_self name
      · have hpod : pod? s name ≠ none := hpod
        rw [hpods, if_neg heq] at hpod
        have hmem := hs.swept hc name (by simpa [Ne.symm heq] using hname) hpod
        rw [hlate] at hmem
        cases hmem
    · rw [hcleaned]
      exact hs.cancelled
    · rw [hcleaned, selectorsIn_append]
      exact fun hmem => hs.called ((List.append_nil (selectorsIn log)).subst hmem)
    · rw [hcleaned]
      exact hs.watcher
  cases hc : cleanedIn selector log with
  | false => exact .inl ⟨_, hsweeping, by rw [hlate', hc]; rfl⟩
  | true =>
    have hthere : pod? s pod.name = some pod := by rw [hpods, if_pos rfl]
    refine .inr ⟨_, pod.name, hsweeping, by rw [hlate', hc]; rfl, ?_⟩
    change pod? s pod.name ≠ none
    rw [hthere]
    exact Option.some_ne_none pod

end

end StagedTests
