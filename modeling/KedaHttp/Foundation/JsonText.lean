import Mathlib.Data.Nat.Digits.Defs
import Mathlib.Order.Basic
import Mathlib.Tactic.Common

/-!
# The words of JSON

How Go's package `encoding/json` (of Go 1.19) writes and reads strings and numbers. Texts are lists
of characters. A reader returns what it has read and what it leaves of the text, or `none` where
the decoder fails with a syntax error or for the lack of input.

A string is read in two steps, as the source does it: up to the closing quote, and then with
escapes undone, where two escapes may stand for one character as a surrogate pair of UTF-16.
-/

namespace KedaHttp.Foundation.Json

def isSpace (char : Char) : Bool :=
  char == ' ' || char == '\t' || char == '\r' || char == '\n'

def skipSpace (text : List Char) : List Char := text.dropWhile isSpace

theorem skipSpace_cons {char : Char} (visible : isSpace char = false) (text : List Char) :
    skipSpace (char :: text) = char :: text := by
  simp [skipSpace, visible]

section Strings

/-- A character of a string as it stands in the text, or the value of an escape `\u`. -/
inductive Piece where
  | char (char : Char)
  | unit (value : ℕ)
  deriving DecidableEq, Repr

def hexValue (char : Char) : Option ℕ :=
  if '0' ≤ char ∧ char ≤ '9' then some (char.toNat - '0'.toNat)
  else if 'a' ≤ char ∧ char ≤ 'f' then some (char.toNat - 'a'.toNat + 10)
  else if 'A' ≤ char ∧ char ≤ 'F' then some (char.toNat - 'A'.toNat + 10)
  else none

/-- The four digits of an escape `\u`. -/
def hexDigits (value : ℕ) : List Char :=
  [value / 4096 % 16, value / 256 % 16, value / 16 % 16, value % 16].map Nat.digitChar

/-- The characters that are written as escapes `\u` although strings could hold them. -/
def escapedForHTML (char : Char) : Bool :=
  char == '<' || char == '>' || char == '&' || char == '\u2028' || char == '\u2029'

def escape (char : Char) : List Char :=
  if char = '"' ∨ char = '\\' then ['\\', char]
  else if char = '\n' then ['\\', 'n']
  else if char = '\r' then ['\\', 'r']
  else if char = '\t' then ['\\', 't']
  else if char.toNat < 0x20 ∨ escapedForHTML char then '\\' :: 'u' :: hexDigits char.toNat
  else [char]

def quote (text : String) : List Char := '"' :: text.toList.flatMap escape ++ ['"']

/-- The escapes of one character. -/
def unescape (char : Char) : Option Char :=
  [('"', '"'), ('\\', '\\'), ('/', '/'), ('b', '\x08'), ('f', '\x0c'), ('n', '\n'), ('r', '\r'),
    ('t', '\t')].lookup char

def unitValue (first second third fourth : Char) : Option ℕ :=
  (hexValue first).bind fun first => (hexValue second).bind fun second =>
    (hexValue third).bind fun third => (hexValue fourth).map fun fourth =>
      ((first * 16 + second) * 16 + third) * 16 + fourth

/-- Reads up to the closing quote. -/
def readPieces : List Char → Option (List Piece × List Char)
  | [] => none
  | char :: rest =>
      if char = '"' then some ([], rest)
      else if char = '\\' then
        match rest with
        | [] => none
        | 'u' :: first :: second :: third :: fourth :: rest =>
            (unitValue first second third fourth).bind fun value =>
              (readPieces rest).map (Prod.map (.unit value :: ·) id)
        | escaped :: rest =>
            (unescape escaped).bind fun char =>
              (readPieces rest).map (Prod.map (.char char :: ·) id)
      else if char.toNat < 0x20 then none
      else (readPieces rest).map (Prod.map (.char char :: ·) id)

def isSurrogate (value : ℕ) : Bool := 0xD800 ≤ value && value < 0xE000

/-- The character of a code unit, or the replacement character for half of a pair. -/
def ofUnit (value : ℕ) : Char := if isSurrogate value then '\uFFFD' else Char.ofNat value

/-- The character of a surrogate pair. -/
def ofPair (high low : ℕ) : Option Char :=
  if 0xD800 ≤ high ∧ high < 0xDC00 ∧ 0xDC00 ≤ low ∧ low < 0xE000 then
    some (Char.ofNat ((high - 0xD800) * 0x400 + (low - 0xDC00) + 0x10000))
  else none

def joinPieces : List Piece → List Char
  | [] => []
  | .char char :: pieces => char :: joinPieces pieces
  | .unit high :: .unit low :: pieces =>
      match ofPair high low with
      | some char => char :: joinPieces pieces
      | none => ofUnit high :: joinPieces (.unit low :: pieces)
  | .unit value :: pieces => ofUnit value :: joinPieces pieces

/-- Reads a string whose opening quote has been read. -/
def readString (text : List Char) : Option (String × List Char) :=
  (readPieces text).map (Prod.map (fun pieces => String.ofList (joinPieces pieces)) id)

theorem hexValue_digitChar {value : ℕ} (small : value < 16) :
    hexValue (Nat.digitChar value) = some value := by
  revert value
  decide

theorem unitValue_hexDigits {value : ℕ} (small : value < 65536) :
    ∃ first second third fourth, hexDigits value = [first, second, third, fourth] ∧
      unitValue first second third fourth = some value := by
  refine ⟨_, _, _, _, rfl, ?_⟩
  have bound : ∀ n : ℕ, n % 16 < 16 := fun n => Nat.mod_lt n (by decide)
  simp only [unitValue, hexValue_digitChar (bound _), Option.bind_some, Option.map_some,
    Option.some.injEq]
  omega

/-- How a character is read that has been written by `escape`. -/
def pieceOf (char : Char) : Piece :=
  if char.toNat < 0x20 ∧ char ∉ ['\n', '\r', '\t'] ∨ escapedForHTML char then .unit char.toNat
  else .char char

theorem readPieces_unit {value : ℕ} (small : value < 65536) (rest : List Char) :
    readPieces ('\\' :: 'u' :: hexDigits value ++ rest) =
      (readPieces rest).map (Prod.map (.unit value :: ·) id) := by
  rcases unitValue_hexDigits small with ⟨first, second, third, fourth, digits, read⟩
  simp [digits, readPieces, read]

theorem readPieces_plain {char : Char} (noQuote : char ≠ '"') (noEscape : char ≠ '\\')
    (visible : ¬char.toNat < 0x20) (rest : List Char) :
    readPieces (char :: rest) = (readPieces rest).map (Prod.map (.char char :: ·) id) := by
  rw [readPieces.eq_def]
  simp [noQuote, noEscape, visible]

theorem readPieces_short {escaped char : Char} (noUnit : escaped ≠ 'u')
    (short : unescape escaped = some char) (rest : List Char) :
    readPieces ('\\' :: escaped :: rest) =
      (readPieces rest).map (Prod.map (.char char :: ·) id) := by
  rw [readPieces.eq_def]
  simp [noUnit, short]

/-- The characters that are written as escapes `\u`, given that they have no short escape. -/
theorem toNat_lt_of_escaped {char : Char} (unit : char.toNat < 0x20 ∨ escapedForHTML char) :
    char.toNat < 0xD800 := by
  rcases unit with low | escaped
  · omega
  · simp only [escapedForHTML, Bool.or_eq_true, beq_iff_eq] at escaped
    rcases escaped with (((rfl | rfl) | rfl) | rfl) | rfl
    all_goals decide

theorem readPieces_escape (char : Char) (rest : List Char) :
    readPieces (escape char ++ rest) =
      (readPieces rest).map (Prod.map (pieceOf char :: ·) id) := by
  by_cases short : char ∈ ['"', '\\', '\n', '\r', '\t']
  · simp only [List.mem_cons, List.not_mem_nil, or_false] at short
    rcases short with rfl | rfl | rfl | rfl | rfl
    all_goals exact readPieces_short (by decide) (by decide) rest
  · simp only [List.mem_cons, List.not_mem_nil, or_false, not_or] at short
    rcases short with ⟨noQuote, noEscape, noNewline, noReturn, noTab⟩
    by_cases unit : char.toNat < 0x20 ∨ escapedForHTML char
    · have small := toNat_lt_of_escaped unit
      simp only [escape, noQuote, noEscape, noNewline, noReturn, noTab, unit, or_self, if_false,
        if_true]
      rw [readPieces_unit (by omega), pieceOf, if_pos]
      simpa [noNewline, noReturn, noTab] using unit
    · simp only [escape, noQuote, noEscape, noNewline, noReturn, noTab, unit, or_self, if_false]
      rw [List.singleton_append, readPieces_plain noQuote noEscape (fun low => unit (.inl low)),
        pieceOf, if_neg]
      simpa [noNewline, noReturn, noTab] using unit

theorem joinPieces_cons_pieceOf (char : Char) (pieces : List Piece) :
    joinPieces (pieceOf char :: pieces) = char :: joinPieces pieces := by
  simp only [pieceOf]
  split
  · next unit =>
      have small : char.toNat < 0xD800 := toNat_lt_of_escaped (unit.imp_left And.left)
      have single : ofUnit char.toNat = char := by
        simp [ofUnit, isSurrogate, Nat.not_le.mpr small, Char.ofNat_toNat]
      have noPair : ∀ low, ofPair char.toNat low = none := by
        intro low
        exact if_neg fun pair => absurd pair.1 (Nat.not_le.mpr small)
      rcases pieces with _ | ⟨_ | _, pieces⟩
      all_goals simp [joinPieces, single, noPair]
  · rfl

/-- What has been written as a string is read as that string, whatever follows. -/
theorem readString_quote (text : String) (rest : List Char) :
    readString (text.toList.flatMap escape ++ '"' :: rest) = some (text, rest) := by
  have pieces : ∀ chars : List Char, readPieces (chars.flatMap escape ++ '"' :: rest) =
      some (chars.map pieceOf, rest) := by
    intro chars
    induction chars with
    | nil =>
        rw [readPieces.eq_def]
        rfl
    | cons char chars ih =>
        rw [List.flatMap_cons, List.append_assoc, readPieces_escape, ih]
        rfl
  have joined : ∀ chars : List Char, joinPieces (chars.map pieceOf) = chars := by
    intro chars
    induction chars with
    | nil => rfl
    | cons char chars ih => rw [List.map_cons, joinPieces_cons_pieceOf, ih]
  simp [readString, pieces, joined]

end Strings

section Numbers

/-- Reads at least one digit. -/
def readDigits (text : List Char) : Option (List Char × List Char) :=
  if text.takeWhile Char.isDigit = [] then none
  else some (text.takeWhile Char.isDigit, text.dropWhile Char.isDigit)

/-- A number that starts with `0` has no further digits before its fraction. -/
def readInteger (text : List Char) : Option (List Char × List Char) :=
  if text.head? = some '0' then some (['0'], text.tail) else readDigits text

def readFraction (text : List Char) : Option (List Char × List Char) :=
  if text.head? = some '.' then (readDigits text.tail).map (Prod.map ('.' :: ·) id)
  else some ([], text)

def readSign (text : List Char) : List Char × List Char :=
  if text.head? = some '-' ∨ text.head? = some '+' then (text.take 1, text.tail) else ([], text)

def readExponent (text : List Char) : Option (List Char × List Char) :=
  if text.head? = some 'e' ∨ text.head? = some 'E' then
    let sign := readSign text.tail
    (readDigits sign.2).map (Prod.map (text.take 1 ++ sign.1 ++ ·) id)
  else some ([], text)

/-- The digits, fraction and exponent of a number. -/
def readUnsigned (text : List Char) : Option (List Char × List Char) :=
  (readInteger text).bind fun integer => (readFraction integer.2).bind fun fraction =>
    (readExponent fraction.2).map fun exponent =>
      (integer.1 ++ fraction.1 ++ exponent.1, exponent.2)

/-- Reads a number as the literal that stands in the text. -/
def readNumber (text : List Char) : Option (List Char × List Char) :=
  if text.head? = some '-' then (readUnsigned text.tail).map (Prod.map ('-' :: ·) id)
  else readUnsigned text

/-- `AppendInt` of package `strconv`, in base 10. -/
def formatInt (n : ℤ) : List Char :=
  if n < 0 then '-' :: Nat.toDigits 10 n.natAbs else Nat.toDigits 10 n.natAbs

/-- The value of decimal digits. -/
def parseUint (literal : List Char) : Option ℕ :=
  if literal ≠ [] ∧ literal.all Char.isDigit then some (Nat.ofDigitChars 10 literal 0) else none

/-- The integers that a signed type of the given size holds. -/
def InRange (bits : ℕ) (n : ℤ) : Prop := -2 ^ (bits - 1) ≤ n ∧ n < 2 ^ (bits - 1)

instance (bits : ℕ) (n : ℤ) : Decidable (InRange bits n) :=
  inferInstanceAs (Decidable (_ ∧ _))

/-- `ParseInt` of package `strconv`, in base 10, for the literals that a JSON text can hold. -/
def parseInt (bits : ℕ) (literal : List Char) : Option ℤ :=
  let value : Option ℤ :=
    if literal.head? = some '-' then (parseUint literal.tail).map fun n : ℕ => -(n : ℤ)
    else (parseUint literal).map fun n : ℕ => (n : ℤ)
  value.filter fun n => InRange bits n

/-- The texts that do not go on with a number. -/
def EndsNumber (rest : List Char) : Prop :=
  ∀ char ∈ rest.head?, char.isDigit = false ∧ char ≠ '.' ∧ char ≠ 'e' ∧ char ≠ 'E'

theorem readDigits_append {digits rest : List Char} (nonempty : digits ≠ [])
    (digit : ∀ char ∈ digits, char.isDigit) (ends : EndsNumber rest) :
    readDigits (digits ++ rest) = some (digits, rest) := by
  have stops : rest.takeWhile Char.isDigit = [] ∧ rest.dropWhile Char.isDigit = rest := by
    cases rest with
    | nil => exact ⟨rfl, rfl⟩
    | cons char rest => simp [(ends char rfl).1]
  have taken : (digits ++ rest).takeWhile Char.isDigit = digits := by
    rw [List.takeWhile_append_of_pos digit, stops.1, List.append_nil]
  have left : (digits ++ rest).dropWhile Char.isDigit = rest := by
    rw [List.dropWhile_append_of_pos digit, stops.2]
  rw [readDigits, taken, left, if_neg nonempty]

section Decimal

variable (n : ℕ)

theorem exists_toDigits : ∃ digit digits, Nat.toDigits 10 n = digit :: digits ∧
    digit.isDigit ∧ (digit = '0' → digits = []) := by
  induction n using Nat.strongRecOn with
  | ind n ih =>
      by_cases small : n < 10
      · rw [Nat.toDigits_of_lt_base small]
        exact ⟨_, [], rfl, by simpa [Nat.isDigit_digitChar] using small, fun _ => rfl⟩
      · rcases ih (n / 10) (by omega) with ⟨digit, digits, high, isDigit, single⟩
        rw [Nat.toDigits_of_base_le (by decide) (by omega), high]
        refine ⟨digit, digits ++ [(n % 10).digitChar], rfl, isDigit, ?_⟩
        rintro rfl
        -- The digits before the last one are those of a positive number.
        have value : Nat.ofDigitChars 10 (Nat.toDigits 10 (n / 10)) 0 = n / 10 :=
          Nat.ofDigitChars_ten_toDigits
        rw [high, single rfl] at value
        have zero : n / 10 = 0 := value.symm
        omega

theorem head_toDigits_ne_sign : (Nat.toDigits 10 n).head? ≠ some '-' := by
  rcases exists_toDigits n with ⟨digit, digits, exposed, isDigit, _⟩
  rw [exposed, List.head?_cons, ne_eq, Option.some.injEq]
  rintro rfl
  exact absurd isDigit (by decide)

theorem readUnsigned_toDigits {rest : List Char} (ends : EndsNumber rest) :
    readUnsigned (Nat.toDigits 10 n ++ rest) = some (Nat.toDigits 10 n, rest) := by
  have integer : readInteger (Nat.toDigits 10 n ++ rest) = some (Nat.toDigits 10 n, rest) := by
    rcases exists_toDigits n with ⟨digit, digits, exposed, isDigit, single⟩
    by_cases zero : digit = '0'
    · simp [readInteger, exposed, zero, single zero]
    · rw [readInteger, if_neg (by simp [exposed, zero])]
      apply readDigits_append Nat.toDigits_ne_nil _ ends
      intro char member
      exact Nat.isDigit_of_mem_toDigits (by decide) (by decide) member
  have fraction : readFraction rest = some ([], rest) := by
    apply if_neg
    intro point
    exact (ends '.' point).2.1 rfl
  have exponent : readExponent rest = some ([], rest) := by
    apply if_neg
    rintro (lower | upper)
    · exact (ends 'e' lower).2.2.1 rfl
    · exact (ends 'E' upper).2.2.2 rfl
  simp [readUnsigned, integer, fraction, exponent]

theorem parseUint_toDigits : parseUint (Nat.toDigits 10 n) = some n := by
  rw [parseUint, if_pos, Nat.ofDigitChars_ten_toDigits]
  refine ⟨Nat.toDigits_ne_nil, ?_⟩
  rw [List.all_eq_true]
  intro char member
  exact Nat.isDigit_of_mem_toDigits (by decide) (by decide) member

end Decimal

/-- What has been written as an integer is read as such, unless more of a number follows. -/
theorem readNumber_formatInt (n : ℤ) {rest : List Char} (ends : EndsNumber rest) :
    readNumber (formatInt n ++ rest) = some (formatInt n, rest) := by
  rw [formatInt]
  split
  · rw [readNumber, List.cons_append, List.head?_cons, if_pos rfl, List.tail_cons,
      readUnsigned_toDigits _ ends]
    rfl
  · rw [readNumber, if_neg, readUnsigned_toDigits _ ends]
    rw [List.head?_append, Option.or_of_isSome (List.isSome_head?.mpr Nat.toDigits_ne_nil)]
    exact head_toDigits_ne_sign _

theorem parseInt_formatInt {bits : ℕ} {n : ℤ} (inRange : InRange bits n) :
    parseInt bits (formatInt n) = some n := by
  have value : (if (formatInt n).head? = some '-' then
      (parseUint (formatInt n).tail).map fun n : ℕ => -(n : ℤ)
      else (parseUint (formatInt n)).map fun n : ℕ => (n : ℤ)) = some n := by
    by_cases negative : n < 0
    · rw [formatInt, if_pos negative, List.head?_cons, if_pos rfl, List.tail_cons,
        parseUint_toDigits, Option.map_some, Option.some.injEq]
      omega
    · rw [formatInt, if_neg negative, if_neg (head_toDigits_ne_sign _), parseUint_toDigits,
        Option.map_some, Option.some.injEq]
      omega
  rw [parseInt, value, Option.filter_some, if_pos (decide_eq_true inRange)]

end Numbers

end KedaHttp.Foundation.Json
