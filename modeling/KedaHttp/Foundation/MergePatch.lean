import KedaHttp.Foundation.GoMap

/-!
# Merge patches

The difference between two maps as a JSON merge patch, in the style of RFC 7386: the entries to
be written and the keys to be deleted, which the patch sets to `null`. A client computes a patch
from the map it has read and the map it wants, and a server applies the patch to what it holds.

If the server still holds what the client has read, the outcome is what the client wants
(`MergePatch.apply_mergeFrom`).

A client may also send a whole document as a patch. The document then only adds and replaces: what
it leaves out stays as the server has it (`Document.merge`).
-/

namespace KedaHttp.Foundation

universe u v

variable {Key : Type u} {Value : Type v} [DecidableEq Key]

namespace GoMap

/-- The entries of a map that pass a test. -/
def filter (test : Key → Value → Prop) [∀ key value, Decidable (test key value)]
    (map : GoMap Key Value) : GoMap Key Value where
  entries := map.entries.filter fun entry => test entry.1 entry.2
  nodupKeys := by
    rw [← Multiset.nodup_keys]
    apply Multiset.nodup_of_le _ (Multiset.nodup_keys.mpr map.nodupKeys)
    exact Multiset.map_le_map (Multiset.filter_le _ _)

theorem lookup_filter (test : Key → Value → Prop) [∀ key value, Decidable (test key value)]
    (map : GoMap Key Value) (key : Key) :
    (map.filter test).lookup key = (map.lookup key).filter fun value => test key value := by
  apply Option.ext
  intro value
  rw [Option.filter_eq_some_iff, Finmap.lookup_eq_some_iff, Finmap.lookup_eq_some_iff]
  simp [filter]

end GoMap

/-- The entries a patch writes, and the keys it deletes. -/
structure MergePatch (Key : Type u) (Value : Type v) where
  set : GoMap Key Value
  unset : Finset Key

namespace MergePatch

/-- The patch that turns `original` into `modified`. -/
def mergeFrom [DecidableEq Value] (original modified : GoMap Key Value) :
    MergePatch Key Value where
  set := modified.filter fun key value => original.lookup key ≠ some value
  unset := original.keys \ modified.keys

def apply (patch : MergePatch Key Value) (map : GoMap Key Value) : GoMap Key Value :=
  patch.set ∪ map.filter fun key _ => key ∉ patch.unset

theorem lookup_apply (patch : MergePatch Key Value) (map : GoMap Key Value) (key : Key) :
    (patch.apply map).lookup key =
      (patch.set.lookup key).or (if key ∈ patch.unset then none else map.lookup key) := by
  simp only [apply]
  by_cases written : key ∈ patch.set
  · rw [Finmap.lookup_union_left written]
    rcases Finmap.mem_iff.mp written with ⟨value, found⟩
    simp [found]
  · rw [Finmap.lookup_union_right written, GoMap.lookup_filter, Finmap.lookup_eq_none.mpr written]
    by_cases deleted : key ∈ patch.unset
    · simp [deleted]
    · cases map.lookup key <;> simp [deleted]

/-- Applied to the map it was computed from, a patch yields the map it was computed for. -/
theorem apply_mergeFrom [DecidableEq Value] (original modified : GoMap Key Value) :
    (mergeFrom original modified).apply original = modified := by
  apply Finmap.ext_lookup
  intro key
  rw [lookup_apply, mergeFrom, GoMap.lookup_filter]
  simp only [Finset.mem_sdiff, Finmap.mem_keys]
  cases wanted : modified.lookup key with
  | none =>
      have absent : key ∉ modified := Finmap.lookup_eq_none.mp wanted
      by_cases held : key ∈ original
      · simp [held, absent]
      · simp [held, Finmap.lookup_eq_none.mpr held]
  | some value =>
      have present : key ∈ modified := Finmap.mem_of_lookup_eq_some wanted
      by_cases unchanged : original.lookup key = some value
      · simp [unchanged, present, Option.filter]
      · simp [unchanged]

end MergePatch

/--
A JSON document as far as a merge patch looks into it. An array is a value like any other to it,
and the members of an object have no order. Names that an object does not have are `absent`.
-/
inductive Document (Scalar : Type u) where
  | absent
  | null
  | scalar (value : Scalar)
  | object (members : String → Document Scalar)

namespace Document

variable {Scalar : Type u}

def member (name : String) : Document Scalar → Document Scalar
  | object members => members name
  | absent | null | scalar _ => absent

/-- The object with the listed members. -/
def objectOf (members : List (String × Document Scalar)) : Document Scalar :=
  object fun name => (members.lookup name).getD absent

/-- A field with `omitempty`, whose empty value is left out. -/
def omitEmpty (value : Option Scalar) : Document Scalar :=
  match value with
  | some value => scalar value
  | none => absent

def scalar? : Document Scalar → Option Scalar
  | scalar value => some value
  | absent | null | object _ => none

/-- RFC 7386, member by member: a `null` in the patch deletes. -/
def merge : Document Scalar → Document Scalar → Document Scalar
  | target, absent => target
  | _, null => absent
  | _, scalar value => scalar value
  | target, object members => object fun name => merge (target.member name) (members name)

@[simp]
theorem member_objectOf (name : String) (members : List (String × Document Scalar)) :
    (objectOf members).member name = (members.lookup name).getD absent := rfl

@[simp]
theorem member_merge_objectOf (target : Document Scalar) (name : String)
    (members : List (String × Document Scalar)) :
    (target.merge (objectOf members)).member name =
      (target.member name).merge ((members.lookup name).getD absent) := rfl

@[simp]
theorem scalar?_scalar (value : Scalar) : (scalar value).scalar? = some value := rfl

@[simp]
theorem scalar?_omitEmpty (value : Option Scalar) : (omitEmpty value).scalar? = value := by
  cases value <;> rfl

@[simp]
theorem merge_scalar (target : Document Scalar) (value : Scalar) :
    target.merge (scalar value) = scalar value := by
  cases target <;> rfl

/-- A field that the patch leaves out keeps the value it has. -/
@[simp]
theorem scalar?_merge_omitEmpty (target : Document Scalar) (value : Option Scalar) :
    (target.merge (omitEmpty value)).scalar? = value.or target.scalar? := by
  cases value with
  | some value => rw [omitEmpty, merge_scalar, scalar?_scalar, Option.some_or]
  | none =>
      rw [Option.none_or]
      cases target <;> rfl

end Document

end KedaHttp.Foundation
