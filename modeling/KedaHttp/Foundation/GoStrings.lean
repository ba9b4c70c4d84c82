import Mathlib.Data.List.TakeWhile

/-!
# Cutting and splitting strings

The functions of Go's `strings` package, and the slicing idioms around them, that
cut a text at a one-character separator. All separators met in practice are ASCII,
so that cutting between bytes and cutting between characters agree.

The lemmas follow one notion, `FreeOf`: which pieces of a text can no longer contain
which character.
-/

namespace KedaHttp.Foundation

/-- The character does not occur in the text. -/
def FreeOf (char : Char) (text : String) : Prop := char ∉ text.toList

instance (char : Char) (text : String) : Decidable (FreeOf char text) :=
  inferInstanceAs (Decidable (char ∉ text.toList))

theorem freeOf_append {char : Char} {left right : String} :
    FreeOf char (left ++ right) ↔ FreeOf char left ∧ FreeOf char right := by
  simp [FreeOf]

/-- What the search for a separator tests, where there is none to find. -/
theorem ne_of_notMem {sep : Char} {text : List Char} (absent : sep ∉ text) :
    ∀ char ∈ text, decide (char ≠ sep) = true := by
  intro char member
  simpa using fun same : char = sep => absent (same ▸ member)

/-- The idiom `if i := strings.Index(text, sep); i != -1 { text = text[:i] }`. -/
def beforeFirst (sep : Char) (text : String) : String :=
  String.ofList (text.toList.takeWhile (· ≠ sep))

/-- The slice `text[i+1:]` where `i` is the first index of the separator, if there is one. -/
def afterFirst (sep : Char) (text : String) : Option String :=
  match text.toList.dropWhile (· ≠ sep) with
  | [] => none
  | _ :: rest => some (String.ofList rest)

/-- The slice `text[:i]` where `i` is the last index of the separator, if there is one. -/
def beforeLast (sep : Char) (text : String) : Option String :=
  match text.toList.reverse.dropWhile (· ≠ sep) with
  | [] => none
  | _ :: rest => some (String.ofList rest.reverse)

/-- `strings.Split(text, sep)`, which always yields at least one piece. -/
def split (sep : Char) (text : String) : List String :=
  (text.toList.splitOn sep).map String.ofList

/-- `strings.HasPrefix(text, lead)`. -/
def hasPrefix (text lead : String) : Bool :=
  lead.toList.isPrefixOf text.toList

theorem freeOf_beforeFirst (sep : Char) (text : String) : FreeOf sep (beforeFirst sep text) := by
  intro member
  rw [beforeFirst, String.toList_ofList] at member
  simpa using List.mem_takeWhile_imp member

theorem beforeFirst_of_freeOf {sep : Char} {text : String} (free : FreeOf sep text) :
    beforeFirst sep text = text := by
  rw [beforeFirst, List.takeWhile_eq_self_iff.mpr (ne_of_notMem free), String.ofList_toList]

/-- A text written with the separator is cut where the separator stands first. -/
theorem beforeFirst_append {sep : Char} {left mark : String} (free : FreeOf sep left)
    (single : mark.toList = [sep]) (right : String) :
    beforeFirst sep (left ++ (mark ++ right)) = left := by
  have whole : left.toList.takeWhile (· ≠ sep) = left.toList :=
    List.takeWhile_eq_self_iff.mpr (ne_of_notMem free)
  have chars : (left ++ (mark ++ right)).toList = left.toList ++ sep :: right.toList := by
    simp [single]
  rw [beforeFirst, chars, List.takeWhile_append, whole, if_pos rfl]
  simp

private theorem exists_of_dropWhile {sep char : Char} {text rest : List Char}
    (dropped : text.dropWhile (· ≠ sep) = char :: rest) :
    ∃ before, text = before ++ sep :: rest ∧ sep ∉ before := by
  induction text with
  | nil => simp at dropped
  | cons first text ih =>
      by_cases same : first = sep
      · rw [List.dropWhile_cons_of_neg (by simp [same]), List.cons.injEq] at dropped
        exact ⟨[], by simp [same, dropped.2], List.not_mem_nil⟩
      · rw [List.dropWhile_cons_of_pos (by simp [same])] at dropped
        rcases ih dropped with ⟨before, whole, absent⟩
        exact ⟨first :: before, by simp [whole], by simp [Ne.symm same, absent]⟩

/-- The slice after the first separator, put back behind what comes before it. -/
theorem exists_of_afterFirst {sep : Char} {text rest : String}
    (found : afterFirst sep text = some rest) :
    ∃ before, text.toList = before ++ sep :: rest.toList ∧ sep ∉ before := by
  simp only [afterFirst] at found
  split at found
  · simp at found
  · next char chars dropped =>
      rw [← Option.some.inj found, String.toList_ofList]
      exact exists_of_dropWhile dropped

theorem freeOf_of_afterFirst {sep : Char} {text : String} (nothing : afterFirst sep text = none) :
    FreeOf sep text := by
  simp only [afterFirst] at nothing
  split at nothing
  · next dropped =>
      intro member
      simpa using List.dropWhile_eq_nil_iff.mp dropped sep member
  · simp at nothing

/-- A text without the separator has nothing to strip at its last occurrence. -/
theorem exists_eq_append {sep : Char} {mark text : String} (single : mark.toList = [sep])
    (occurs : ¬FreeOf sep text) :
    ∃ left right, FreeOf sep left ∧ text = left ++ (mark ++ right) := by
  cases found : afterFirst sep text with
  | none => exact absurd (freeOf_of_afterFirst found) occurs
  | some right =>
      rcases exists_of_afterFirst found with ⟨before, chars, absent⟩
      refine ⟨String.ofList before, right, ?_, ?_⟩
      · rw [FreeOf, String.toList_ofList]
        exact absent
      · apply String.toList_injective
        simp [chars, single]

theorem beforeLast_of_freeOf {sep : Char} {text : String} (free : FreeOf sep text) :
    beforeLast sep text = none := by
  have absent : sep ∉ text.toList.reverse := fun member => free (List.mem_reverse.mp member)
  have nothing : text.toList.reverse.dropWhile (· ≠ sep) = [] :=
    List.dropWhile_eq_nil_iff.mpr (ne_of_notMem absent)
  simp only [beforeLast, nothing]

/-- The pieces of a split are made of the characters of the text other than the separator. -/
private theorem mem_of_mem_splitOn {sep : Char} {text piece : List Char}
    (member : piece ∈ text.splitOn sep) : ∀ char ∈ piece, char ∈ text ∧ char ≠ sep := by
  induction text generalizing piece with
  | nil =>
      rw [List.splitOn_nil, List.mem_singleton] at member
      simp [member]
  | cons first text ih =>
      -- What holds for a piece of the rest also holds with one more character in front.
      have shifted : ∀ {piece}, piece ∈ text.splitOn sep →
          ∀ char ∈ piece, char ∈ first :: text ∧ char ≠ sep := by
        intro piece later char occurs
        exact ⟨List.mem_cons_of_mem _ (ih later char occurs).1, (ih later char occurs).2⟩
      rw [List.splitOn_cons_eq_if_modifyHead] at member
      rcases List.exists_cons_of_ne_nil (List.splitOn_ne_nil sep text) with ⟨next, rest, pieces⟩
      split at member
      · rcases List.mem_cons.mp member with rfl | later
        · simp
        · exact shifted later
      · next differs =>
          rw [pieces, List.modifyHead_cons, List.mem_cons] at member
          rcases member with rfl | later
          · rw [List.forall_mem_cons]
            refine ⟨⟨List.mem_cons_self, ?_⟩, shifted (pieces ▸ List.mem_cons_self)⟩
            intro same
            exact differs (by simp [same])
          · exact shifted (pieces ▸ List.mem_cons_of_mem _ later)

/-- No piece of a split contains the separator. -/
theorem freeOf_of_mem_split {sep : Char} {text piece : String} (member : piece ∈ split sep text) :
    FreeOf sep piece := by
  rcases List.mem_map.mp member with ⟨chars, charsMem, rfl⟩
  rw [FreeOf, String.toList_ofList]
  intro occurs
  exact (mem_of_mem_splitOn charsMem sep occurs).2 rfl

/-- Splitting introduces no character. -/
theorem freeOf_of_mem_split_of_freeOf {sep char : Char} {text piece : String}
    (free : FreeOf char text) (member : piece ∈ split sep text) : FreeOf char piece := by
  rcases List.mem_map.mp member with ⟨chars, charsMem, rfl⟩
  rw [FreeOf, String.toList_ofList]
  intro occurs
  exact free (mem_of_mem_splitOn charsMem char occurs).1

theorem split_of_freeOf {sep : Char} {text : String} (free : FreeOf sep text) :
    split sep text = [text] := by
  rw [split, List.splitOn_eq_singleton free, List.map_singleton, String.ofList_toList]

theorem split_append {sep : Char} {left mark : String} (free : FreeOf sep left)
    (single : mark.toList = [sep]) (right : String) :
    split sep (left ++ (mark ++ right)) = left :: split sep right := by
  have chars : (left ++ (mark ++ right)).toList = left.toList ++ sep :: right.toList := by
    simp [single]
  rw [split, chars, List.splitOn_append_cons_self_of_not_mem free, List.map_cons,
    String.ofList_toList]
  rfl

/-- The first piece is what stands before the first separator. -/
theorem head_split (sep : Char) (text : String) :
    (split sep text).head? = some (beforeFirst sep text) := by
  by_cases free : FreeOf sep text
  · rw [split_of_freeOf free, beforeFirst_of_freeOf free, List.head?_cons]
  · have single := String.toList_singleton sep
    rcases exists_eq_append single free with ⟨left, right, leftFree, rfl⟩
    rw [split_append leftFree single, beforeFirst_append leftFree single, List.head?_cons]

theorem split_ne_nil (sep : Char) (text : String) : split sep text ≠ [] := by
  simp [split]

/-- Splitting undoes `strings.Join` on lists of at least one piece, none with the separator. -/
theorem split_intercalate_eq_iff {sep : Char} {mark : String} (single : mark.toList = [sep])
    (pieces : List String) :
    split sep (mark.intercalate pieces) = pieces ↔
      pieces ≠ [] ∧ ∀ piece ∈ pieces, FreeOf sep piece := by
  constructor
  · intro same
    constructor
    · intro empty
      rw [empty] at same
      exact split_ne_nil _ _ same
    · intro piece member
      rw [← same] at member
      exact freeOf_of_mem_split member
  · rintro ⟨nonempty, free⟩
    have charsFree : ∀ chars ∈ pieces.map String.toList, sep ∉ chars := by
      intro chars member
      rcases List.mem_map.mp member with ⟨piece, pieceMem, rfl⟩
      exact free piece pieceMem
    rw [split, String.toList_intercalate, single,
      List.splitOn_intercalate sep charsFree (by simpa using nonempty), List.map_map]
    simp

theorem freeOf_intercalate {char : Char} {mark : String} {pieces : List String}
    (markFree : FreeOf char mark) (free : ∀ piece ∈ pieces, FreeOf char piece) :
    FreeOf char (mark.intercalate pieces) := by
  induction pieces with
  | nil =>
      rw [String.intercalate_nil]
      exact List.not_mem_nil
  | cons piece pieces ih =>
      rw [List.forall_mem_cons] at free
      by_cases last : pieces = []
      · rw [last, String.intercalate_singleton]
        exact free.1
      · rw [String.intercalate_cons_of_ne_nil last, freeOf_append, freeOf_append]
        exact ⟨⟨free.1, markFree⟩, ih free.2⟩

theorem not_freeOf_intercalate {char : Char} {mark : String} (occurs : ¬FreeOf char mark)
    {pieces : List String} (several : 2 ≤ pieces.length) :
    ¬FreeOf char (mark.intercalate pieces) := by
  match pieces, several with
  | first :: second :: rest, _ =>
      rw [String.intercalate_cons_cons, freeOf_append, freeOf_append]
      exact fun free => occurs free.1.2

end KedaHttp.Foundation
