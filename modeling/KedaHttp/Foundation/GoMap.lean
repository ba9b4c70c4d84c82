import Mathlib.Data.Finmap
import Mathlib.Algebra.BigOperators.Group.Finset.Piecewise

/-!
# Go maps

A Go map is modelled by Mathlib's `Finmap`: a finite partial function with
extensional equality. This file adds what the Go language gives a map beyond
insertion, deletion and lookup.

* Reading an absent key yields the zero value of the element type (`GoMap.get`).
* A `range` loop visits every entry once in an order the runtime chooses. The
  orders a loop may follow are the lists satisfying `GoMap.Ranges`.
* Accumulating statements such as `m[k] += v` (`GoMap.addAt`), together with the
  sum of all values of a map, which such a statement moves by exactly `v`.
-/

namespace KedaHttp.Foundation

universe u v w

/-- The finite maps of the Go language. -/
abbrev GoMap (Key : Type u) (Value : Type v) := Finmap fun _ : Key => Value

namespace GoMap

variable {Key : Type u} {Value : Type v} [DecidableEq Key]

theorem lookup_insert_ite (map : GoMap Key Value) (key other : Key) (value : Value) :
    (map.insert key value).lookup other = if other = key then some value else map.lookup other := by
  split
  · next same => rw [same, Finmap.lookup_insert]
  · next differs => exact Finmap.lookup_insert_of_ne map differs

theorem lookup_erase_ite (map : GoMap Key Value) (key other : Key) :
    (map.erase key).lookup other = if other = key then none else map.lookup other := by
  split
  · next same => rw [same, Finmap.lookup_erase]
  · next differs => exact Finmap.lookup_erase_ne differs

/-- The element read from a map, with the zero value standing for an absent key. -/
def get [Zero Value] (map : GoMap Key Value) (key : Key) : Value :=
  (map.lookup key).getD 0

@[simp]
theorem get_empty [Zero Value] (key : Key) : get (∅ : GoMap Key Value) key = 0 := by
  simp [get]

theorem get_insert [Zero Value] (map : GoMap Key Value) (key other : Key) (value : Value) :
    get (map.insert key value) other = if other = key then value else get map other := by
  simp only [get]
  rw [lookup_insert_ite]
  split <;> rfl

theorem get_of_notMem [Zero Value] {map : GoMap Key Value} {key : Key} (absent : key ∉ map) :
    get map key = 0 := by
  simp [get, Finmap.lookup_eq_none.mpr absent]

/-- The orders in which a `range` loop may visit the entries of a map. -/
def Ranges (map : GoMap Key Value) (order : List (Key × Value)) : Prop :=
  (order.map Prod.fst).Nodup ∧ (order.map Prod.fst).toFinset = map.keys ∧
    ∀ entry ∈ order, map.lookup entry.1 = some entry.2

instance [DecidableEq Value] (map : GoMap Key Value) (order : List (Key × Value)) :
    Decidable (map.Ranges order) :=
  inferInstanceAs (Decidable (_ ∧ _ ∧ _))

namespace Ranges

variable {map : GoMap Key Value} {order : List (Key × Value)}

/-- A loop over a map visits a key with a value exactly when the map holds that entry. -/
theorem mem_iff (ranges : Ranges map order) (key : Key) (value : Value) :
    (key, value) ∈ order ↔ map.lookup key = some value := by
  rcases ranges with ⟨_, keys, entries⟩
  constructor
  · intro member
    exact entries _ member
  · intro found
    have present : key ∈ (order.map Prod.fst).toFinset := by
      rw [keys, Finmap.mem_keys]
      exact Finmap.mem_of_lookup_eq_some found
    rw [List.mem_toFinset, List.mem_map] at present
    rcases present with ⟨⟨visited, held⟩, member, rfl⟩
    have same := (entries _ member).symm.trans found
    simp only [Option.some.injEq] at same
    exact same ▸ member

/-- The keys a loop visits are the keys of the map. -/
theorem mem_keys_iff (ranges : Ranges map order) (key : Key) :
    key ∈ order.map Prod.fst ↔ key ∈ map := by
  rw [← Finmap.mem_keys, ← ranges.2.1, List.mem_toFinset]

theorem eq_nil_of_empty (ranges : Ranges (∅ : GoMap Key Value) order) : order = [] := by
  cases order with
  | nil => rfl
  | cons entry order =>
      have found := ranges.2.2 entry List.mem_cons_self
      simp at found

end Ranges

/-- A `range` loop can always be executed. -/
theorem exists_ranges (map : GoMap Key Value) : ∃ order, map.Ranges order := by
  induction map using Finmap.induction_on with
  | H entries =>
      have keys : (entries.entries.map fun entry => (entry.1, entry.2)).map Prod.fst =
          entries.keys := by
        simp [AList.keys, List.keys, Function.comp_def]
      refine ⟨entries.entries.map fun entry => (entry.1, entry.2), ?_, ?_, ?_⟩
      · rw [keys]
        exact entries.keys_nodup
      · rw [keys]
        apply Finset.ext
        intro key
        rw [List.mem_toFinset, Finmap.mem_keys]
        exact Iff.rfl
      · intro entry member
        rcases List.mem_map.mp member with ⟨held, heldMem, rfl⟩
        rw [Finmap.lookup_toFinmap]
        exact AList.mem_lookup_iff.mpr heldMem

section MapValues

variable {Image : Type w}

/-- The map with every value replaced by its image. -/
def mapValues (f : Value → Image) (map : GoMap Key Value) : GoMap Key Image where
  entries := map.entries.map fun entry => ⟨entry.1, f entry.2⟩
  nodupKeys := by
    rcases map with ⟨entries, nodupKeys⟩
    induction entries using Quotient.inductionOn with
    | h entries =>
        have keys : (entries.map fun entry => (⟨entry.1, f entry.2⟩ : Σ _ : Key, Image)).keys =
            entries.keys := by
          simp [List.keys]
        simpa [Multiset.coe_nodupKeys, List.NodupKeys, keys] using nodupKeys

theorem lookup_mapValues (f : Value → Image) (map : GoMap Key Value) (key : Key) :
    (map.mapValues f).lookup key = (map.lookup key).map f := by
  induction map using Finmap.induction_on with
  | H entries =>
      exact List.dlookup_map₂ (l := entries.entries) (f := fun _ => f) key

@[simp]
theorem mem_mapValues (f : Value → Image) (map : GoMap Key Value) (key : Key) :
    key ∈ map.mapValues f ↔ key ∈ map := by
  rw [← Finmap.lookup_isSome, ← Finmap.lookup_isSome, lookup_mapValues, Option.isSome_map]

theorem get_mapValues [Zero Value] [Zero Image] {f : Value → Image} (zero : f 0 = 0)
    (map : GoMap Key Value) (key : Key) : (map.mapValues f).get key = f (map.get key) := by
  rw [get, get, lookup_mapValues]
  cases map.lookup key with
  | none => exact zero.symm
  | some value => rfl

end MapValues

section Accumulation

variable [AddCommMonoid Value]

/-- The statement `map[key] += value`. -/
def addAt (map : GoMap Key Value) (key : Key) (value : Value) : GoMap Key Value :=
  map.insert key (get map key + value)

/-- The sum of the values of a map. -/
def sum (map : GoMap Key Value) : Value := ∑ key ∈ map.keys, get map key

theorem get_addAt (map : GoMap Key Value) (key other : Key) (value : Value) :
    get (map.addAt key value) other = get map other + if other = key then value else 0 := by
  rw [addAt, get_insert]
  split
  · next same => rw [same]
  · rw [add_zero]

theorem mem_addAt (map : GoMap Key Value) (key other : Key) (value : Value) :
    other ∈ map.addAt key value ↔ other = key ∨ other ∈ map :=
  Finmap.mem_insert

@[simp]
theorem sum_empty : sum (∅ : GoMap Key Value) = 0 := rfl

/-- The sum over a finite set containing every key does not depend on that set. -/
theorem sum_eq_of_subset (map : GoMap Key Value) {keys : Finset Key}
    (covers : map.keys ⊆ keys) : map.sum = ∑ key ∈ keys, get map key := by
  apply Finset.sum_subset covers
  intro key _ absent
  exact get_of_notMem fun present => absent (Finmap.mem_keys.mpr present)

/-- Accumulating a value at one key moves the sum of the map by that value. -/
theorem sum_addAt (map : GoMap Key Value) (key : Key) (value : Value) :
    (map.addAt key value).sum = map.sum + value := by
  have newCovers : (map.addAt key value).keys ⊆ insert key map.keys := by
    intro other member
    simpa [Finmap.mem_keys, mem_addAt] using member
  have oldCovers : map.keys ⊆ insert key map.keys := Finset.subset_insert _ _
  rw [sum_eq_of_subset _ newCovers, sum_eq_of_subset _ oldCovers]
  simp only [get_addAt, Finset.sum_add_distrib]
  simp

end Accumulation

end GoMap

end KedaHttp.Foundation
