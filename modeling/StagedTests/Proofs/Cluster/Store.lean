import StagedTests.Parameter
import StagedTests.Run.Rehearsal

/-!
# Pods in a store

A cluster may keep its pods in a store that all calls on pods act on. A call for one name leaves the
pods of all other names as they are, and the deletion by a label leaves those that its selector does
not match. A pod that is looked at is changed: the store counts the looks.
-/

namespace StagedTests

namespace PodStore

variable (s : PodStore) {name : String}

theorem create_get?_of_ne {pod : Pod} (h : pod.name ≠ name) :
    (create pod s).2.pods.get? name = s.pods.get? name := by
  unfold create
  dsimp only
  split
  · rfl
  · split
    · rfl
    · exact s.pods.get?_insert_of_ne h _

theorem get_get?_of_ne {other : String} (h : other ≠ name) :
    (get other s).2.pods.get? name = s.pods.get? name := by
  unfold get
  split
  · rfl
  · exact s.pods.get?_insert_of_ne h _

theorem delete_get?_of_ne {other : String} (h : other ≠ name) :
    (delete other s).2.pods.get? name = s.pods.get? name := by
  unfold delete
  split
  · have herase := s.pods.get?_erase other name
    rwa [if_neg h] at herase
  · rfl

theorem exec_pods (pod container : String) (words : List String) :
    (exec pod container words s).2.pods = s.pods := by
  unfold exec
  dsimp only
  split <;> rfl

theorem deleteCollection_get? {selector : String} {stored : StoredPod}
    (hstored : s.pods.get? name = some stored)
    (h : Selector.selects selector stored.pod = false) :
    (deleteCollection selector s).2.pods.get? name = some stored := by
  change (s.pods.filter _).get? name = _
  rw [Table.get?_filter, hstored, Option.filter_some, h]
  rfl

end PodStore

/-- The calls on pods act on a store as on one in memory, whatever they answer, and nothing else
acts on it. -/
structure StoresPods {σ : Type} (env : Surroundings σ) (params : Parameters σ)
    (store : σ → PodStore) : Prop where
  create : ∀ pod s, store (env.pods.create pod s).2 = (PodStore.create pod (store s)).2
  get : ∀ name s, store (env.pods.get name s).2 = (PodStore.get name (store s)).2
  delete : ∀ name s, store (env.pods.delete name s).2 = (PodStore.delete name (store s)).2
  deleteCollection : ∀ selector s, store (env.pods.deleteCollection selector s).2 =
    (PodStore.deleteCollection selector (store s)).2
  exec : ∀ pod container words s, store (env.pods.exec pod container words s).2 =
    (PodStore.exec pod container words (store s)).2
  meanwhile : ∀ m n s, store (env.meanwhile m n s).2 = store s
  getSecret : ∀ name s, store (env.secrets.get name s).2 = store s
  createSecret : ∀ x s, store (env.secrets.create x s).2 = store s
  deleteSecret : ∀ name s, store (env.secrets.delete name s).2 = store s
  valued : ∀ name s, store (params.get name s).2 = store s

namespace Rehearsed

theorem act_pods (r : Rehearsed) : r.act.2.pods = r.pods := by
  unfold act
  split
  · split <;> rfl
  · rfl

/-- A rehearsed cluster is such a store, if the parameters leave it alone. -/
theorem storesPods {params : Parameters Rehearsed} (h : ∀ name r, (params.get name r).2 = r) :
    StoresPods surroundings params (·.pods) where
  create := fun _ _ => rfl
  get := fun _ _ => rfl
  delete := fun _ _ => rfl
  deleteCollection := fun _ _ => rfl
  exec := fun _ _ _ _ => rfl
  meanwhile := fun m n r => by
    simp only [surroundings]
    split
    · exact r.act_pods
    · rfl
  getSecret := fun _ _ => rfl
  createSecret := fun _ _ => rfl
  deleteSecret := fun _ _ => rfl
  valued := fun name r => by rw [h]

end Rehearsed

end StagedTests
