import Keyspace.Form
import Keyspace.Proofs.Text.Percent

/-!
# Reading forms back

A form is read by parting it at the ampersands and each field at its first equals sign. Blank
values count, and plus signs are spaces. Whatever was written as a form reads back as its fields.
-/

namespace Keyspace.Form

/-- A plus sign stands for a space. -/
def plusAsSpace (character : Char) : Char := if character = '+' then ' ' else character

/-- A name or value that was written in a form. -/
def readText (written : List Char) : String :=
  String.ofList (Text.Percent.decode (written.map plusAsSpace))

/-- A name with its value, parted at the first equals sign. -/
def readField (written : List Char) : String × String :=
  (readText (written.takeWhile (· ≠ '=')), readText ((written.dropWhile (· ≠ '=')).drop 1))

/-- The fields of a form. -/
def read (body : String) : List (String × String) :=
  ((Text.fields '&' body.toList).filter (· ≠ [])).map readField

/-- What a form shows as it is, spaces aside. -/
def isPlain (character : Char) : Bool := character = ' ' || Text.Percent.isUnreserved character

/-- With its plus signs read as spaces, a text is percent-encoded. -/
theorem map_plusAsSpace_writeText (text : String) :
    (writeText text).map plusAsSpace = Text.Percent.encode isPlain text.toList := by
  have atCharacter : ∀ character, (writeCharacter character).map plusAsSpace =
      if isPlain character then [character] else Text.Percent.escape character := by
    intro character
    by_cases space : character = ' '
    · subst space
      rfl
    by_cases unreserved : Text.Percent.isUnreserved character = true
    · have apart : character ≠ '+' := by
        rintro rfl
        revert unreserved
        decide
      simp [writeCharacter, isPlain, plusAsSpace, space, unreserved, apart]
    · have kept : ∀ written ∈ Text.Percent.escape character, plusAsSpace written = written :=
        Text.Percent.forall_mem_escape character (by decide) (by decide)
      have unchanged : (Text.Percent.escape character).map plusAsSpace =
          Text.Percent.escape character :=
        (List.map_congr_left kept).trans (List.map_id _)
      simpa [writeCharacter, isPlain, space, unreserved] using unchanged
  simp only [writeText, Text.Percent.encode, List.map_flatMap, atCharacter]

/-- Reading a name or value undoes writing it. -/
theorem readText_writeText (text : String) : readText (writeText text) = text := by
  rw [readText, map_plusAsSpace_writeText, Text.Percent.decode_encode (by decide),
    String.ofList_toList]

/-- A written name or value holds no mark of a form. -/
theorem not_mem_writeText {mark : Char} (isMark : mark = '&' ∨ mark = '=') (text : String) :
    mark ∉ writeText text := by
  have apart : ∀ character, ∀ written ∈ writeCharacter character, written ≠ mark := by
    intro character
    unfold writeCharacter
    split
    · intro written isWritten
      obtain rfl := List.mem_singleton.1 isWritten
      rcases isMark with rfl | rfl <;> decide
    split
    · next unreserved =>
      intro written isWritten
      obtain rfl := List.mem_singleton.1 isWritten
      rintro rfl
      rcases isMark with rfl | rfl <;> revert unreserved <;> decide
    · refine Text.Percent.forall_mem_escape character ?_ ?_
      · rcases isMark with rfl | rfl <;> decide
      · rcases isMark with rfl | rfl <;> decide
  intro isWritten
  obtain ⟨character, -, isWritten⟩ := List.mem_flatMap.1 isWritten
  exact apart character mark isWritten rfl

/-- Reading a field undoes writing it. -/
theorem readField_writeField (field : String × String) : readField (writeField field) = field := by
  have name : ∀ character ∈ writeText field.1, decide (character ≠ '=') = true := by
    intro character isWritten
    have apart : character ≠ '=' := fun same =>
      not_mem_writeText (.inr rfl) field.1 (same ▸ isWritten)
    simpa using apart
  simp only [readField, writeField]
  rw [List.takeWhile_append_of_pos name, List.dropWhile_append_of_pos name]
  simp [readText_writeText]

/-- Reading a form undoes writing it. -/
theorem read_write (fields : List (String × String)) : read (write fields) = fields := by
  have written : Text.fields '&' (write fields).toList =
      if fields = [] then [[]] else fields.map writeField := by
    split
    · next none =>
      subst none
      rfl
    · next some =>
      rw [write, String.toList_ofList, Text.fields_unfields (by simpa using some)]
      intro field isField
      obtain ⟨original, -, rfl⟩ := List.mem_map.1 isField
      simp [writeField, not_mem_writeText]
  have filled : (fields.map writeField).filter (· ≠ []) = fields.map writeField := by
    rw [List.filter_eq_self]
    intro field isField
    obtain ⟨original, -, rfl⟩ := List.mem_map.1 isField
    simp [writeField]
  rw [read, written]
  split
  · next none => simp [none]
  · rw [filled, List.map_map]
    exact (List.map_congr_left fun field _ => readField_writeField field).trans (List.map_id _)

end Keyspace.Form
