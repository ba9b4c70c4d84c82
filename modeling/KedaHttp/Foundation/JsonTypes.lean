import KedaHttp.Foundation.Json

/-!
# Go values in JSON

How package `encoding/json` converts between JSON values and integers, strings, maps and structs.
A decoder is given the value that its variable holds, since `null` leaves a variable as it is, and
since members that a struct does not have a field for are skipped.

Objects are written with the keys of a map in order, and with the fields of a struct in the order
of their declaration. When objects are read, the last of several members with one key counts.
-/

namespace KedaHttp.Foundation

namespace GoMap

variable {Value : Type}

/-- The entries of a map in the order of their keys. -/
def sorted (map : GoMap String Value) : List (String × Value) :=
  map.keys.sort.filterMap fun key => (map.lookup key).map fun value => (key, value)

theorem keys_sorted (map : GoMap String Value) : map.sorted.map Prod.fst = map.keys.sort := by
  have present : ∀ key ∈ map.keys.sort, (map.lookup key).map (fun _ => key) = some key := by
    intro key member
    rw [Finset.mem_sort, Finmap.mem_keys, Finmap.mem_iff] at member
    rcases member with ⟨value, found⟩
    rw [found, Option.map_some]
  rw [sorted, List.map_filterMap]
  simp only [Option.map_map]
  exact (List.filterMap_congr present).trans List.filterMap_some

theorem ranges_sorted (map : GoMap String Value) : map.Ranges map.sorted := by
  rw [Ranges, keys_sorted]
  refine ⟨Finset.sort_nodup _ _, Finset.sort_toFinset _ _, ?_⟩
  intro entry member
  rcases List.mem_filterMap.mp member with ⟨key, _, found⟩
  rcases Option.map_eq_some_iff.mp found with ⟨value, held, rfl⟩
  exact held

/-- A map is put together again from its entries in any order. -/
theorem Ranges.foldl_insert {map : GoMap String Value} {order : List (String × Value)}
    (ranges : map.Ranges order) :
    order.foldl (fun built entry => built.insert entry.1 entry.2) ∅ = map := by
  have rebuilt : ∀ (rest : List (String × Value)) (built : GoMap String Value),
      (∀ entry ∈ rest, map.lookup entry.1 = some entry.2) →
      (∀ key, key ∉ rest.map Prod.fst → built.lookup key = map.lookup key) →
      rest.foldl (fun built entry => built.insert entry.1 entry.2) built = map := by
    intro rest
    induction rest with
    | nil =>
        intro built _ same
        exact Finmap.ext_lookup fun key => same key (by simp)
    | cons entry rest ih =>
        intro built entries same
        apply ih
        · exact fun other member => entries other (List.mem_cons_of_mem _ member)
        · intro key absent
          rw [lookup_insert_ite]
          split
          · next visited => rw [visited, entries entry List.mem_cons_self]
          · next other =>
              apply same
              simpa [other] using absent
  apply rebuilt order ∅ ranges.2.2
  intro key absent
  rw [ranges.mem_keys_iff] at absent
  rw [Finmap.lookup_empty, Finmap.lookup_eq_none.mpr absent]

end GoMap

namespace Json

def encodeInt (n : ℤ) : Json := .number (formatInt n)

def decodeInt (bits : ℕ) (current : ℤ) : Json → Option ℤ
  | .number literal => parseInt bits literal
  | .null => some current
  | _ => none

def decodeString (current : String) : Json → Option String
  | .string text => some text
  | .null => some current
  | _ => none

section Maps

variable {Value : Type}

def encodeMap (element : Value → Json) (map : GoMap String Value) : Json :=
  .object (map.sorted.map fun entry => (entry.1, element entry.2))

/-- Decodes into an empty map, where `null` sets the variable to the nil map, given by `none`. -/
def decodeMap (element : Json → Option Value) : Json → Option (Option (GoMap String Value))
  | .object members =>
      (members.foldlM (fun map member => (element member.2).map (map.insert member.1)) ∅).map some
  | .null => some none
  | _ => none

/-- A map is decoded as it has been encoded, if its elements are. -/
theorem decodeMap_encodeMap {encode : Value → Json} {decode : Json → Option Value}
    {map : GoMap String Value}
    (elements : ∀ key value, map.lookup key = some value → decode (encode value) = some value) :
    decodeMap decode (encodeMap encode map) = some (some map) := by
  have ranges := map.ranges_sorted
  have inserted : ∀ (entries : List (String × Value)) (built : GoMap String Value),
      (∀ entry ∈ entries, decode (encode entry.2) = some entry.2) →
      (entries.map fun entry => (entry.1, encode entry.2)).foldlM
        (fun map member => (decode member.2).map (map.insert member.1)) built =
          some (entries.foldl (fun built entry => built.insert entry.1 entry.2) built) := by
    intro entries
    induction entries with
    | nil => simp
    | cons entry entries ih =>
        intro built decoded
        rw [List.forall_mem_cons] at decoded
        simp [decoded.1, ih _ decoded.2]
  rw [encodeMap, decodeMap, inserted, ranges.foldl_insert, Option.map_some]
  intro entry member
  exact elements entry.1 entry.2 (ranges.2.2 entry member)

theorem writable_encodeMap {room : ℕ} {encode : Value → Json} {map : GoMap String Value}
    (elements : ∀ key value, map.lookup key = some value → Writable room (encode value)) :
    Writable (room + 1) (encodeMap encode map) := by
  apply Writable.object
  intro member listed
  rcases List.mem_map.mp listed with ⟨entry, held, rfl⟩
  exact elements entry.1 entry.2 (map.ranges_sorted.2.2 entry held)

end Maps

section Structs

/-- A field of a struct, with how the member of that name is decoded into a record. -/
structure Field (Record : Type) where
  name : String
  decode : Record → Json → Option Record

/-- Letters are compared without their case. Two characters beyond ASCII fold to letters as well. -/
def foldChar (char : Char) : Char :=
  if char = 'ſ' then 's' else if char = 'K' then 'k' else char.toLower

def equalFold (left right : String) : Bool :=
  left.toList.map foldChar == right.toList.map foldChar

variable {Record : Type}

/-- A member is for the field of its very name, or else for the first of its name in any case. -/
def findField (fields : List (Field Record)) (key : String) : Option (Field Record) :=
  (fields.find? fun field => field.name == key).or
    (fields.find? fun field => equalFold field.name key)

def decodeMember (fields : List (Field Record)) (record : Record) (member : String × Json) :
    Option Record :=
  match findField fields member.1 with
  | some field => field.decode record member.2
  | none => some record

def decodeStruct (fields : List (Field Record)) (current : Record) : Json → Option Record
  | .object members => members.foldlM (decodeMember fields) current
  | .null => some current
  | _ => none

end Structs

end Json

end KedaHttp.Foundation
