import Mathlib.Data.List.Nodup
import Mathlib.Logic.Function.Basic

/-!
# Go Maps

The engine of `pkg/container` keeps all of its state in Go maps keyed by strings:
container names to host-configured containers, and config-file paths to their contents.
A Go map is a finite partial function together with the key set a `range` loop produces,
in an order the language leaves unspecified.

`GoMap V` models `map[string]V`: `get` is the lookup `m[k]` (with `none` for a missing
key) and `keys` lists each key once. The structure carries the link between the two, so
every map built by `set` and `delete` has exactly the keys its lookup answers for. Two maps
are the same Go map when their lookups agree; the order of `keys` only fixes one of the
orders a `range` may take.
-/

namespace Flexkube

/-- A Go `map[string]V`: its lookup and the keys a `range` over it produces. -/
structure GoMap (V : Type) where
  /-- The lookup `m[k]`, `none` for an absent key. -/
  get : String → Option V
  /-- The keys of the map, each once. -/
  keys : List String
  nodup : keys.Nodup
  mem_keys : ∀ k, k ∈ keys ↔ (get k).isSome

namespace GoMap

variable {V W : Type}

/-! ## Operations -/

/-- The empty map. -/
def empty : GoMap V where
  get := fun _ => none
  keys := []
  nodup := List.nodup_nil
  mem_keys := by simp

/-- Go's assignment `m[k] = v`: a new key goes to the end of the key list. -/
def set (m : GoMap V) (k : String) (v : V) : GoMap V where
  get := Function.update m.get k (some v)
  keys := if k ∈ m.keys then m.keys else m.keys ++ [k]
  nodup := by
    split
    · exact m.nodup
    · exact List.nodup_append.2 ⟨m.nodup, List.nodup_singleton k, by simpa⟩
  mem_keys := by
    intro j
    by_cases hj : j = k
    · subst hj; split <;> simp_all
    · have := m.mem_keys j
      split <;> simp_all

/-- Go's `delete(m, k)`. -/
def delete (m : GoMap V) (k : String) : GoMap V where
  get := Function.update m.get k none
  keys := m.keys.erase k
  nodup := m.nodup.erase k
  mem_keys := by
    intro j
    by_cases hj : j = k
    · subst hj; simp [m.nodup.mem_erase_iff]
    · simp [m.nodup.mem_erase_iff, hj, m.mem_keys]

/-- The map built by keeping, for each key, what `f` makes of its value. -/
def filterMap (m : GoMap V) (f : String → V → Option W) : GoMap W where
  get := fun k => (m.get k).bind (f k)
  keys := m.keys.filter fun k => ((m.get k).bind (f k)).isSome
  nodup := m.nodup.filter _
  mem_keys := by
    intro j
    cases h : m.get j <;> simp [List.mem_filter, m.mem_keys, h]

/-- The map with each value replaced by what `f` makes of it. -/
def map (m : GoMap V) (f : String → V → W) : GoMap W where
  get := fun k => (m.get k).map (f k)
  keys := m.keys
  nodup := m.nodup
  mem_keys := by simp [m.mem_keys]

/-- A Go map literal: each pair is assigned in turn. -/
def ofList (l : List (String × V)) : GoMap V :=
  l.foldl (fun m p => m.set p.1 p.2) empty

/-- Go's `len(m)`. -/
def len (m : GoMap V) : Nat := m.keys.length

/-! ## Lookups after an update -/

@[simp] theorem get_empty (k : String) : (empty : GoMap V).get k = none := rfl

@[simp] theorem get_set_self (m : GoMap V) (k : String) (v : V) :
    (m.set k v).get k = some v := by
  simp [set]

@[simp] theorem get_set_ne (m : GoMap V) {k j : String} (v : V) (h : j ≠ k) :
    (m.set k v).get j = m.get j := by
  simp [set, h]

@[simp] theorem get_delete_self (m : GoMap V) (k : String) : (m.delete k).get k = none := by
  simp [delete]

@[simp] theorem get_delete_ne (m : GoMap V) {k j : String} (h : j ≠ k) :
    (m.delete k).get j = m.get j := by
  simp [delete, h]

@[simp] theorem get_filterMap (m : GoMap V) (f : String → V → Option W) (k : String) :
    (m.filterMap f).get k = (m.get k).bind (f k) := rfl

@[simp] theorem get_map (m : GoMap V) (f : String → V → W) (k : String) :
    (m.map f).get k = (m.get k).map (f k) := rfl

theorem get_set (m : GoMap V) (k j : String) (v : V) :
    (m.set k v).get j = if j = k then some v else m.get j := by
  split <;> simp_all

theorem get_delete (m : GoMap V) (k j : String) :
    (m.delete k).get j = if j = k then none else m.get j := by
  split <;> simp_all

theorem mem_keys_iff (m : GoMap V) {k : String} : k ∈ m.keys ↔ ∃ v, m.get k = some v := by
  rw [m.mem_keys, Option.isSome_iff_exists]

theorem get_of_mem_keys (m : GoMap V) {k : String} (h : k ∈ m.keys) : ∃ v, m.get k = some v :=
  m.mem_keys_iff.1 h

theorem mem_keys_of_get (m : GoMap V) {k : String} {v : V} (h : m.get k = some v) :
    k ∈ m.keys :=
  m.mem_keys_iff.2 ⟨v, h⟩

/-- Maps with the same lookup have the same key set, in some order. -/
theorem keys_perm_of_get_eq {m m' : GoMap V} (h : m.get = m'.get) : m.keys.Perm m'.keys :=
  (List.perm_ext_iff_of_nodup m.nodup m'.nodup).2 fun k => by
    rw [m.mem_keys, m'.mem_keys, h]

/-- A literal of one pair holds that pair alone. -/
theorem get_ofList_singleton {k n : String} {v x : V} (h : (ofList [(k, v)]).get n = some x) :
    n = k ∧ v = x := by
  by_cases hn : n = k
  · subst hn
    simpa [ofList] using h
  · simp [ofList, hn] at h

/-- A lookup in a map built from two pairs finds one of them. -/
theorem get_ofList_pair {k k' n : String} {v v' x : V} (h : (ofList [(k, v), (k', v')]).get n = some x) :
    n = k' ∧ v' = x ∨ n = k ∧ v = x := by
  simp only [ofList, List.foldl, get_set, get_empty] at h
  split_ifs at h with h1 h2 <;> simp_all

/-- Keeping every value of a map as it is leaves the map unchanged. -/
theorem filterMap_eq_self {m : GoMap V} {f : String → V → Option V}
    (h : ∀ k v, m.get k = some v → f k v = some v) : m.filterMap f = m := by
  have hget : ∀ k, (m.get k).bind (f k) = m.get k := fun k => by
    cases hk : m.get k with
    | none => rfl
    | some v => exact h k v hk
  cases m with
  | mk get keys nodup mem_keys =>
    simp only [filterMap, mk.injEq]
    exact ⟨funext hget, List.filter_eq_self.2 fun k hk => by rw [hget]; exact (mem_keys k).1 hk⟩

theorem map_map {X : Type} (m : GoMap V) (f : String → V → W) (g : String → W → X) :
    (m.map f).map g = m.map fun k v => g k (f k v) := by
  cases m
  simp only [map, mk.injEq, Option.map_map, and_true]
  rfl

end GoMap

end Flexkube
