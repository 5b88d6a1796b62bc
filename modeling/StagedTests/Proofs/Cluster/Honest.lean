import StagedTests.Cluster.Memory
import StagedTests.Run.World

/-!
# Honest clusters

What a run may rely on where a cluster does what it answers: a pod is there once its creation was
answered, nobody but the run creates or deletes pods, and the deletion by a label deletes exactly
the pods that its selector matches. The cluster in memory is honest.
-/

namespace StagedTests

variable {σ : Type}

/-- The cluster does to its pods, as `pod?` shows them, what its answers say. -/
structure HonestCluster (env : Surroundings σ) (pod? : σ → String → Option Pod) : Prop where
  meanwhile : ∀ m n s name, pod? (env.meanwhile m n s).2 name = pod? s name
  get : ∀ name s other, pod? (env.pods.get name s).2 other = pod? s other
  exec : ∀ pod container words s name,
    pod? (env.pods.exec pod container words s).2 name = pod? s name
  delete : ∀ name s other x, pod? (env.pods.delete name s).2 other = some x →
    pod? s other = some x
  created : ∀ pod s s' answer, env.pods.create pod s = (.answered (.ok answer), s') →
    ∀ name, pod? s' name = if pod.name = name then some pod else pod? s name
  refused : ∀ pod s s' e, env.pods.create pod s = (.answered (.error e), s') →
    ∀ name, pod? s' name = pod? s name
  swept : ∀ selector s, ∃ s', env.pods.deleteCollection selector s = (.answered (.ok ()), s') ∧
    ∀ name, pod? s' name = (pod? s name).filter fun x => !Selector.selects selector x

namespace PodStore

theorem get_pod? (name : String) (s : PodStore) (other : String) :
    (get name s).2.pod? other = s.pod? other := by
  unfold get
  split
  · rfl
  · rename_i stored hstored
    by_cases h : name = other
    · subst h
      simp [pod?, hstored]
    · simp [pod?, Table.get?_insert, h]

theorem exec_pod? (pod container : String) (words : List String) (s : PodStore) (name : String) :
    (exec pod container words s).2.pod? name = s.pod? name := by
  unfold exec
  dsimp only
  split <;> rfl

theorem delete_pod? (name : String) (s : PodStore) {other : String} {x : Pod}
    (h : (delete name s).2.pod? other = some x) : s.pod? other = some x := by
  unfold delete at h
  split at h
  · simp only [pod?, Table.get?_erase] at h
    split at h
    · cases h
    · exact h
  · exact h

theorem create_pod? {pod answer : Pod} {s s' : PodStore}
    (h : create pod s = (.answered (.ok answer), s')) (name : String) :
    s'.pod? name = if pod.name = name then some pod else s.pod? name := by
  unfold create at h
  dsimp only at h
  split at h
  · cases h
  · split at h
    · cases h
    · cases h
      simp only [pod?, Table.get?_insert]
      split <;> rfl

theorem create_refused_pod? {pod : Pod} {e : ClientError} {s s' : PodStore}
    (h : create pod s = (.answered (.error e), s')) : s' = s := by
  unfold create at h
  dsimp only at h
  split at h
  · cases h; rfl
  · split at h
    · cases h; rfl
    · cases h

theorem deleteCollection_pod? (selector : String) (s : PodStore) (name : String) :
    (deleteCollection selector s).2.pod? name =
      (s.pod? name).filter fun x => !Selector.selects selector x := by
  simp only [deleteCollection, pod?, Table.get?_filter, Option.filter_map, Function.comp_def]

/-- The cluster in memory is honest wherever others leave it alone. -/
theorem honestCluster {env : Surroundings PodStore} (hclient : env.pods = client)
    (hmeanwhile : ∀ m n s, (env.meanwhile m n s).2 = s) : HonestCluster env pod? where
  meanwhile := fun m n s name => by rw [hmeanwhile]
  get := by rw [hclient]; exact get_pod?
  exec := by rw [hclient]; exact exec_pod?
  delete := by rw [hclient]; exact fun name s other x => delete_pod? name s
  created := by rw [hclient]; exact fun pod s s' answer h => create_pod? h
  refused := by rw [hclient]; exact fun pod s s' e h name => by rw [create_refused_pod? h]
  swept := by
    rw [hclient]
    exact fun selector s => ⟨_, rfl, deleteCollection_pod? selector s⟩

end PodStore

end StagedTests
