import KedaHttp.Foundation.GoMap
import KedaHttp.Foundation.JsonText
import Mathlib.Data.Finset.Sort
import Mathlib.Data.String.Basic

/-!
# JSON texts

The values that Go's package `encoding/json` writes and reads, with the two sides of a round trip:
`print` writes a value as the encoder does, and `decode` reads the first value of a text as
`Decoder.Decode` does. Below, the conversions that the package makes between values and Go's
integers, strings, maps and structs.

A decoder that finds a value of another type than it decodes into goes on to the end of the text
and then fails. Here it fails at once, which makes no difference to a caller that does not use the
partly decoded result. The texts of the package's errors are not modelled.
-/

namespace KedaHttp.Foundation

/-- A JSON value. Numbers are kept as the literals they are written as. -/
inductive Json where
  | null
  | bool (value : Bool)
  | number (literal : List Char)
  | string (text : String)
  | array (items : List Json)
  | object (members : List (String × Json))

namespace Json

section Texts

mutual

/-- Writes a value without any space. -/
def print : Json → List Char
  | .null => ['n', 'u', 'l', 'l']
  | .bool true => ['t', 'r', 'u', 'e']
  | .bool false => ['f', 'a', 'l', 's', 'e']
  | .number literal => literal
  | .string text => quote text
  | .array items => '[' :: printItems true items
  | .object members => '{' :: printMembers true members

def printItems : Bool → List Json → List Char
  | _, [] => [']']
  | first, item :: items =>
      (if first then [] else [',']) ++ print item ++ printItems false items

def printMembers : Bool → List (String × Json) → List Char
  | _, [] => ['}']
  | first, (key, value) :: members =>
      (if first then [] else [',']) ++ quote key ++ ':' :: print value ++
        printMembers false members

end

def maxNestingDepth : ℕ := 10000

def readKeyword (text : List Char) : Option (Json × List Char) :=
  if text.take 4 = ['n', 'u', 'l', 'l'] then some (.null, text.drop 4)
  else if text.take 4 = ['t', 'r', 'u', 'e'] then some (.bool true, text.drop 4)
  else if text.take 5 = ['f', 'a', 'l', 's', 'e'] then some (.bool false, text.drop 5)
  else none

/-- After an item comes a comma and what `more` reads, or the bracket that closes the list. -/
def readRest {Item : Type} (close : Char) (more : List Char → Option (List Item × List Char))
    (item : Item) (text : List Char) : Option (List Item × List Char) :=
  if (skipSpace text).head? = some ',' then
    (more (skipSpace text).tail).map (Prod.map (item :: ·) id)
  else if (skipSpace text).head? = some close then some ([item], (skipSpace text).tail)
  else none

mutual

/--
Reads a value within `depth` arrays and objects. The first argument bounds the recursion, which
gets by with the length of the text.
-/
def readValue : ℕ → ℕ → List Char → Option (Json × List Char)
  | 0, _, _ => none
  | fuel + 1, depth, text =>
      match skipSpace text with
      | [] => none
      | char :: rest =>
          if char = '[' then
            if maxNestingDepth ≤ depth then none
            else if (skipSpace rest).head? = some ']' then some (.array [], (skipSpace rest).tail)
            else (readItems fuel (depth + 1) rest).map (Prod.map .array id)
          else if char = '{' then
            if maxNestingDepth ≤ depth then none
            else if (skipSpace rest).head? = some '}' then some (.object [], (skipSpace rest).tail)
            else (readMembers fuel (depth + 1) rest).map (Prod.map .object id)
          else if char = '"' then (readString rest).map (Prod.map .string id)
          else if char = '-' ∨ char.isDigit then
            (readNumber (char :: rest)).map (Prod.map .number id)
          else readKeyword (char :: rest)

def readItems : ℕ → ℕ → List Char → Option (List Json × List Char)
  | 0, _, _ => none
  | fuel + 1, depth, text =>
      (readValue fuel depth text).bind fun item =>
        readRest ']' (readItems fuel depth) item.1 item.2

def readMembers : ℕ → ℕ → List Char → Option (List (String × Json) × List Char)
  | 0, _, _ => none
  | fuel + 1, depth, text =>
      if (skipSpace text).head? = some '"' then
        (readString (skipSpace text).tail).bind fun key =>
          if (skipSpace key.2).head? = some ':' then
            (readValue fuel depth (skipSpace key.2).tail).bind fun value =>
              readRest '}' (readMembers fuel depth) (key.1, value.1) value.2
          else none
      else none

end

/-- `Decoder.Decode` reads the first value of a text, and does not look at what follows it. -/
def decode (text : List Char) : Option Json := (readValue (text.length + 1) 0 text).map Prod.fst

/-- The literals of numbers, which are read back whatever follows them in a JSON text. -/
structure IsLiteral (literal : List Char) : Prop where
  head : ∃ char rest, literal = char :: rest ∧ (char = '-' ∨ char.isDigit)
  read : ∀ rest, EndsNumber rest → readNumber (literal ++ rest) = some (literal, rest)

theorem isLiteral_formatInt (n : ℤ) : IsLiteral (formatInt n) where
  head := by
    rw [formatInt]
    split
    · exact ⟨_, _, rfl, .inl rfl⟩
    · rcases exists_toDigits n.natAbs with ⟨digit, digits, exposed, isDigit, _⟩
      exact ⟨digit, digits, exposed, .inr isDigit⟩
  read := fun _ ends => readNumber_formatInt n ends

/-- The values that can be written where at most `room` arrays and objects may be nested. -/
inductive Writable : ℕ → Json → Prop where
  | null {room : ℕ} : Writable room .null
  | bool {room : ℕ} (value : Bool) : Writable room (.bool value)
  | number {room : ℕ} {literal : List Char} (isLiteral : IsLiteral literal) :
      Writable room (.number literal)
  | string {room : ℕ} (text : String) : Writable room (.string text)
  | array {room : ℕ} {items : List Json} (each : ∀ item ∈ items, Writable room item) :
      Writable (room + 1) (.array items)
  | object {room : ℕ} {members : List (String × Json)}
      (each : ∀ member ∈ members, Writable room member.2) : Writable (room + 1) (.object members)

/-- What a written value starts with is neither space nor the end of an array. -/
theorem Writable.head_print {room : ℕ} {value : Json} (writable : Writable room value) :
    ∃ char rest, value.print = char :: rest ∧ isSpace char = false ∧ char ≠ ']' := by
  cases writable with
  | null => exact ⟨_, _, by rw [print], by decide, by decide⟩
  | bool value => cases value <;> exact ⟨_, _, by rw [print], by decide, by decide⟩
  | string text => exact ⟨_, _, by rw [print, quote, List.cons_append], by decide, by decide⟩
  | array each => exact ⟨_, _, by rw [print], by decide, by decide⟩
  | object each => exact ⟨_, _, by rw [print], by decide, by decide⟩
  | number isLiteral =>
      rcases isLiteral.head with ⟨char, rest, rfl, starts⟩
      refine ⟨char, rest, by rw [print], ?_⟩
      have visible : isSpace char = true ∨ char = ']' → ¬(char = '-' ∨ char.isDigit) := by
        simp only [isSpace, Bool.or_eq_true, beq_iff_eq]
        rintro ((((rfl | rfl) | rfl) | rfl) | rfl)
        all_goals decide
      rw [← Bool.not_eq_true, ← not_or]
      exact fun hidden => visible hidden starts

section Lists

variable {Item : Type} {close : Char} {more : List Char → Option (List Item × List Char)}

theorem readRest_comma (item : Item) (text : List Char) :
    readRest close more item (',' :: text) = (more text).map (Prod.map (item :: ·) id) := by
  rw [readRest, skipSpace_cons (by decide)]
  rfl

theorem readRest_close (visible : isSpace close = false) (noComma : close ≠ ',') (item : Item)
    (text : List Char) : readRest close more item (close :: text) = some ([item], text) := by
  rw [readRest, skipSpace_cons visible]
  simp [noComma]

end Lists

/-- A value is read back in front of any text that cannot be taken for the rest of a number. -/
def ReadBack (depth : ℕ) (value : Json) : Prop :=
  ∀ fuel rest, value.print.length ≤ fuel → (∀ literal, value = .number literal → EndsNumber rest) →
    readValue fuel depth (value.print ++ rest) = some (value, rest)

section Items

variable (item : Json) (items : List Json)

theorem printItems_first :
    printItems true (item :: items) = print item ++ printItems false items := by
  simp [printItems]

theorem printItems_further :
    printItems false (item :: items) = ',' :: printItems true (item :: items) := by
  simp [printItems]

theorem one_le_length_printItems : 1 ≤ (printItems false items).length := by
  cases items <;> simp [printItems]

theorem endsNumber_printItems (rest : List Char) : EndsNumber (printItems false items ++ rest) := by
  cases items <;> simp [printItems, EndsNumber]

variable {item items}

theorem readItems_print {depth : ℕ} (each : ∀ value ∈ item :: items, ReadBack depth value)
    {fuel : ℕ} (enough : (printItems true (item :: items)).length ≤ fuel) (rest : List Char) :
    readItems fuel depth (printItems true (item :: items) ++ rest) =
      some (item :: items, rest) := by
  induction items generalizing item fuel with
  | nil =>
      rw [printItems_first, List.length_append] at enough
      have closing := one_le_length_printItems []
      obtain ⟨fuel, rfl⟩ : ∃ smaller, fuel = smaller + 1 := ⟨fuel - 1, by omega⟩
      rw [readItems, printItems_first, List.append_assoc,
        each item List.mem_cons_self fuel _ (by omega) fun _ _ => endsNumber_printItems [] rest]
      exact readRest_close (by decide) (by decide) item rest
  | cons second items ih =>
      rw [printItems_first, List.length_append] at enough
      rw [printItems_further, List.length_cons] at enough
      obtain ⟨fuel, rfl⟩ : ∃ smaller, fuel = smaller + 1 := ⟨fuel - 1, by omega⟩
      rw [readItems, printItems_first, List.append_assoc,
        each item List.mem_cons_self fuel _ (by omega) fun _ _ => endsNumber_printItems _ rest,
        Option.bind_some, printItems_further, List.cons_append, readRest_comma,
        ih (fun value member => each value (List.mem_cons_of_mem _ member)) (by omega)]
      rfl

end Items

section Members

variable (member : String × Json) (members : List (String × Json))

theorem printMembers_first : printMembers true (member :: members) =
    quote member.1 ++ ':' :: print member.2 ++ printMembers false members := by
  simp [printMembers]

theorem printMembers_further :
    printMembers false (member :: members) = ',' :: printMembers true (member :: members) := by
  simp [printMembers]

theorem endsNumber_printMembers (rest : List Char) :
    EndsNumber (printMembers false members ++ rest) := by
  cases members <;> simp [printMembers, EndsNumber]

variable {member members}

/-- A member is read back, and what follows it is left. -/
theorem readMembers_member {depth fuel : ℕ} (readBack : ReadBack depth member.2)
    (enough : (print member.2).length ≤ fuel) {text : List Char} (ends : EndsNumber text) :
    readMembers (fuel + 1) depth (quote member.1 ++ ':' :: print member.2 ++ text) =
      readRest '}' (readMembers fuel depth) member text := by
  have key := readString_quote member.1 (':' :: (print member.2 ++ text))
  have value := readBack fuel text enough fun _ _ => ends
  rw [readMembers]
  simp only [quote, List.cons_append, List.append_assoc, List.nil_append]
  rw [skipSpace_cons (by decide), List.head?_cons, if_pos rfl, List.tail_cons, key,
    Option.bind_some, skipSpace_cons (by decide), List.head?_cons, if_pos rfl, List.tail_cons,
    value, Option.bind_some]

theorem readMembers_print {depth : ℕ}
    (each : ∀ entry ∈ member :: members, ReadBack depth entry.2) {fuel : ℕ}
    (enough : (printMembers true (member :: members)).length ≤ fuel) (rest : List Char) :
    readMembers fuel depth (printMembers true (member :: members) ++ rest) =
      some (member :: members, rest) := by
  induction members generalizing member fuel with
  | nil =>
      rw [printMembers_first, List.length_append, List.length_append, List.length_cons] at enough
      obtain ⟨fuel, rfl⟩ : ∃ smaller, fuel = smaller + 1 := ⟨fuel - 1, by omega⟩
      rw [printMembers_first, List.append_assoc, readMembers_member (each member List.mem_cons_self)
        (by omega) (endsNumber_printMembers [] rest)]
      exact readRest_close (by decide) (by decide) member rest
  | cons second members ih =>
      rw [printMembers_first, List.length_append, List.length_append, List.length_cons,
        printMembers_further, List.length_cons] at enough
      obtain ⟨fuel, rfl⟩ : ∃ smaller, fuel = smaller + 1 := ⟨fuel - 1, by omega⟩
      rw [printMembers_first, List.append_assoc, readMembers_member (each member List.mem_cons_self)
        (by omega) (endsNumber_printMembers _ rest), printMembers_further, List.cons_append,
        readRest_comma, ih (fun entry member => each entry (List.mem_cons_of_mem _ member))
        (by omega)]
      rfl

end Members

theorem readValue_cons {fuel depth : ℕ} {char : Char} (visible : isSpace char = false)
    (rest : List Char) : readValue (fuel + 1) depth (char :: rest) =
      if char = '[' then
        if maxNestingDepth ≤ depth then none
        else if (skipSpace rest).head? = some ']' then some (.array [], (skipSpace rest).tail)
        else (readItems fuel (depth + 1) rest).map (Prod.map .array id)
      else if char = '{' then
        if maxNestingDepth ≤ depth then none
        else if (skipSpace rest).head? = some '}' then some (.object [], (skipSpace rest).tail)
        else (readMembers fuel (depth + 1) rest).map (Prod.map .object id)
      else if char = '"' then (readString rest).map (Prod.map .string id)
      else if char = '-' ∨ char.isDigit then
        (readNumber (char :: rest)).map (Prod.map .number id)
      else readKeyword (char :: rest) := by
  rw [readValue, skipSpace_cons visible]

theorem Writable.exists_fuel {room fuel : ℕ} {value : Json} (writable : Writable room value)
    (enough : value.print.length ≤ fuel) : ∃ smaller, fuel = smaller + 1 := by
  rcases writable.head_print with ⟨char, rest, exposed, _⟩
  rw [exposed, List.length_cons] at enough
  exact ⟨fuel - 1, by omega⟩

theorem readBack_number {depth : ℕ} {literal : List Char} (isLiteral : IsLiteral literal) :
    ReadBack depth (.number literal) := by
  intro fuel rest enough ends
  have writable := @Writable.number 0 _ isLiteral
  rcases writable.exists_fuel enough with ⟨fuel, rfl⟩
  have read := isLiteral.read rest (ends literal rfl)
  rcases writable.head_print with ⟨char, text, exposed, visible, _⟩
  rcases isLiteral.head with ⟨first, digits, rfl, starts⟩
  rw [print, List.cons.injEq] at exposed
  rcases exposed with ⟨rfl, rfl⟩
  have other : ∀ char, ¬(char = '-' ∨ char.isDigit) → first ≠ char := by
    rintro char noDigit rfl
    exact noDigit starts
  rw [print, List.cons_append, readValue_cons visible, if_neg (other '[' (by decide)),
    if_neg (other '{' (by decide)), if_neg (other '"' (by decide)), if_pos starts,
    ← List.cons_append, read]
  rfl

theorem readBack_array {depth room : ℕ} {items : List Json} (shallow : depth < maxNestingDepth)
    (each : ∀ item ∈ items, Writable room item)
    (readBack : ∀ item ∈ items, ReadBack (depth + 1) item) : ReadBack depth (.array items) := by
  intro fuel rest enough _
  rcases (Writable.array each).exists_fuel enough with ⟨fuel, rfl⟩
  rw [print, List.length_cons] at enough
  rw [print, List.cons_append, readValue_cons (by decide), if_pos rfl, if_neg (by omega)]
  cases items with
  | nil =>
      rw [printItems, List.singleton_append, skipSpace_cons (by decide)]
      rfl
  | cons item items =>
      rcases (each item List.mem_cons_self).head_print with ⟨char, text, exposed, visible, noEnd⟩
      have goesOn : (skipSpace (printItems true (item :: items) ++ rest)).head? ≠ some ']' := by
        rw [printItems_first, exposed, List.cons_append, List.cons_append, skipSpace_cons visible]
        simpa using noEnd
      rw [if_neg goesOn, readItems_print readBack (by omega)]
      rfl

theorem readBack_object {depth room : ℕ} {members : List (String × Json)}
    (shallow : depth < maxNestingDepth) (each : ∀ member ∈ members, Writable room member.2)
    (readBack : ∀ member ∈ members, ReadBack (depth + 1) member.2) :
    ReadBack depth (.object members) := by
  intro fuel rest enough _
  rcases (Writable.object each).exists_fuel enough with ⟨fuel, rfl⟩
  rw [print, List.length_cons] at enough
  rw [print, List.cons_append, readValue_cons (by decide), if_neg (by decide), if_pos rfl,
    if_neg (by omega)]
  cases members with
  | nil =>
      rw [printMembers, List.singleton_append, skipSpace_cons (by decide)]
      rfl
  | cons member members =>
      have goesOn : (skipSpace (printMembers true (member :: members) ++ rest)).head? ≠
          some '}' := by
        rw [printMembers_first, quote, List.cons_append, List.cons_append, List.cons_append,
          List.cons_append, skipSpace_cons (by decide)]
        simp
      rw [if_neg goesOn, readMembers_print readBack (by omega)]
      rfl

/-- By induction on the nesting of the value. -/
theorem Writable.readBack {room depth : ℕ} {value : Json} (writable : Writable room value)
    (shallow : depth + room ≤ maxNestingDepth) : ReadBack depth value := by
  induction writable generalizing depth with
  | null =>
      intro fuel rest enough _
      rcases (@Writable.null 0).exists_fuel enough with ⟨fuel, rfl⟩
      rw [print, List.cons_append, readValue_cons (by decide)]
      rfl
  | bool value =>
      intro fuel rest enough _
      rcases (@Writable.bool 0 value).exists_fuel enough with ⟨fuel, rfl⟩
      cases value
      all_goals
        rw [print, List.cons_append, readValue_cons (by decide)]
        rfl
  | string text =>
      intro fuel rest enough _
      rcases (@Writable.string 0 text).exists_fuel enough with ⟨fuel, rfl⟩
      rw [print, quote, List.cons_append, List.cons_append, readValue_cons (by decide),
        if_neg (by decide), if_neg (by decide), if_pos rfl, List.append_assoc,
        List.singleton_append, readString_quote]
      rfl
  | number isLiteral => exact readBack_number isLiteral
  | array each ih =>
      exact readBack_array (by omega) each fun item member => ih item member (by omega)
  | object each ih =>
      exact readBack_object (by omega) each fun item member => ih item member (by omega)

/-- What has been written is read back. -/
theorem decode_print {value : Json} (writable : Writable maxNestingDepth value) {rest : List Char}
    (ends : ∀ literal, value = .number literal → EndsNumber rest) :
    decode (value.print ++ rest) = some value := by
  have length : value.print.length ≤ (value.print ++ rest).length + 1 := by
    rw [List.length_append]
    omega
  rw [decode, writable.readBack (by omega) _ _ length ends]
  rfl

end Texts

end Json

end KedaHttp.Foundation
