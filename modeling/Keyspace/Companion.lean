import Keyspace.Text.Fields

/-!
# Companion keys

A flat map has values at their keys and, beside them, metadata at companion keys. The companions
of a key share a stem: an underscore, the key and a point. Keys with a leading underscore are set
aside as metadata.
-/

namespace Keyspace.Companion

/-- What the companions of a key start with. -/
def stem (key : String) : String := "_" ++ key ++ "."

/-- The companion of a key with a name. -/
def key (owner name : String) : String := stem owner ++ name

/-- The name of a companion of a key. -/
def name? (owner candidate : String) : Option String :=
  (Text.after? (stem owner).toList candidate.toList).map String.ofList

theorem name?_key (owner name : String) : name? owner (key owner name) = some name := by
  simp [name?, key, Text.after?_append]

/-- Only companions of a key have a name for it. -/
theorem eq_key_of_name? {owner candidate name : String}
    (named : name? owner candidate = some name) : candidate = key owner name := by
  obtain ⟨rest, follows, rfl⟩ := Option.map_eq_some_iff.1 named
  have whole := Text.after?_eq_some follows
  apply String.toList_injective
  simpa [key] using whole

theorem toList_key (owner name : String) :
    (key owner name).toList = '_' :: owner.toList ++ '.' :: name.toList := by
  simp [key, stem]

/-- Names without a point tell companions of whatever keys apart. -/
theorem key_eq_key_iff {owner other name otherName : String} (plain : '.' ∉ name.toList)
    (otherPlain : '.' ∉ otherName.toList) :
    key owner name = key other otherName ↔ owner = other ∧ name = otherName := by
  constructor
  · intro same
    have characters := congrArg (Text.splitLast? '.' ∘ String.toList) same
    simp only [Function.comp, toList_key] at characters
    rw [Text.splitLast?_append _ plain, Text.splitLast?_append _ otherPlain] at characters
    simp only [Option.some.injEq, Prod.mk.injEq, List.cons.injEq, true_and] at characters
    exact ⟨String.toList_injective characters.1, String.toList_injective characters.2⟩
  · rintro ⟨rfl, rfl⟩
    rfl

/-- A companion whose name has no point is one of its own key, and besides that one of each key that
ends before a point in it, where the rest of its own key belongs to the name. -/
theorem key_eq_key_iff_or_within {owner other name otherName : String}
    (otherPlain : '.' ∉ otherName.toList) :
    key owner name = key other otherName ↔ (owner = other ∧ name = otherName) ∨
      ∃ rest, other = owner ++ "." ++ rest ∧ name = rest ++ "." ++ otherName := by
  constructor
  · intro same
    have characters := congrArg String.toList same
    simp only [toList_key, List.cons_append, List.cons.injEq, true_and] at characters
    rcases List.append_eq_append_iff.1 characters with
      ⟨_ | ⟨mark, rest⟩, isOther, isName⟩ | ⟨_ | ⟨mark, rest⟩, isOwner, isOtherName⟩
    · simp only [List.append_nil, List.nil_append, List.cons.injEq, true_and] at isOther isName
      exact .inl ⟨String.toList_injective isOther.symm, String.toList_injective isName⟩
    · obtain ⟨rfl, isName⟩ := List.cons.inj isName
      refine .inr ⟨String.ofList rest, ?_, ?_⟩ <;> apply String.toList_injective
      · simpa using isOther
      · simpa using isName
    · simp only [List.append_nil, List.nil_append, List.cons.injEq, true_and] at isOwner isOtherName
      exact .inl ⟨String.toList_injective isOwner, String.toList_injective isOtherName.symm⟩
    · obtain ⟨-, isOtherName⟩ := List.cons.inj isOtherName
      exact absurd (isOtherName ▸ List.mem_append_right rest List.mem_cons_self) otherPlain
  · rintro (⟨rfl, rfl⟩ | ⟨rest, rfl, rfl⟩)
    · rfl
    · simp [key, stem, String.append_assoc]

/-- Companions of one key are told apart by their names. -/
@[simp] theorem key_inj {owner name otherName : String} :
    key owner name = key owner otherName ↔ name = otherName := by
  constructor
  · intro same
    have named := congrArg (name? owner) same
    simpa [name?_key] using named
  · rintro rfl
    rfl

/-- No key is a companion of itself. -/
theorem key_ne_owner (owner name : String) : key owner name ≠ owner := by
  intro same
  have lengths := congrArg (List.length ∘ String.toList) same
  simp only [Function.comp, toList_key, List.length_append, List.length_cons] at lengths
  omega

/-- A key that is set aside for metadata. -/
def isReserved (candidate : String) : Bool := candidate.toList.head? = some '_'

@[simp] theorem isReserved_key (owner name : String) : isReserved (key owner name) = true := by
  simp [isReserved, toList_key]

theorem ne_of_not_isReserved {candidate : String} (plain : isReserved candidate = false)
    (owner name : String) : key owner name ≠ candidate := by
  rintro rfl
  simp at plain

/-- The name of the companion that tells where values come from. -/
def sourceName : String := "source"

/-- The name of the companion that tells what went wrong. -/
def errorName : String := "error"

end Keyspace.Companion
