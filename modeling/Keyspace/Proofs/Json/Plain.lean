import Keyspace.Proofs.Json.RoundTrip

/-!
# Plain documents

Documents without real numbers and oversized integers are never refused by the writer,
`isOversized_of_isPlain`, and they are written on one line, `keepsLine_write`: in texts all characters
below the blank are escaped, and outside of texts there are only marks, names, digits and minus signs.
An object is plain when its members are, `isPlain_object_iff`, and it stays so when plain ones are written
to it.
-/

namespace Keyspace.Json

/-- No character of a text is below the blank, so that none of them ends the line. -/
def KeepsLine (text : List Char) : Prop := ∀ character ∈ text, 0x20 ≤ character.toNat

@[simp] theorem keepsLine_nil : KeepsLine [] := by simp [KeepsLine]

@[simp] theorem keepsLine_cons {first : Char} {later : List Char} :
    KeepsLine (first :: later) ↔ 0x20 ≤ first.toNat ∧ KeepsLine later :=
  List.forall_mem_cons

@[simp] theorem keepsLine_append {first second : List Char} :
    KeepsLine (first ++ second) ↔ KeepsLine first ∧ KeepsLine second :=
  List.forall_mem_append

private theorem keepsLine_hexadecimal {code : Nat} (small : code < 0x20) :
    KeepsLine (Text.hexadecimal 4 code) := by
  have allCodes : ∀ code < 0x20,
      (Text.hexadecimal 4 code).all (fun digit => 0x20 ≤ digit.toNat) = true := by
    decide +kernel
  simpa [KeepsLine] using allCodes code small

/-- Whatever a character is, what is written for it keeps to one line. -/
theorem keepsLine_writeCharacter (character : Char) : KeepsLine (writeCharacter character) := by
  unfold writeCharacter
  -- The escapes by a letter come first, then those by code, and last what stands for itself.
  iterate 7
    split
    · simp
  split
  · next small => simp [keepsLine_hexadecimal small]
  · next large => simpa using large

/-- A text is written on one line. -/
theorem keepsLine_writeText (text : String) : KeepsLine (writeText text) := by
  have inside : KeepsLine (text.toList.flatMap writeCharacter) := by
    intro character isWritten
    obtain ⟨source, -, isPart⟩ := List.mem_flatMap.1 isWritten
    exact keepsLine_writeCharacter source character isPart
  simp [writeText, inside]

/-- An integer is written on one line. -/
theorem keepsLine_integerText (number : Int) : KeepsLine (Number.integerText number).toList := by
  intro character isWritten
  have isInteger := Number.isIntegerCharacter_of_mem_integerText number character isWritten
  simp only [Number.isIntegerCharacter, Bool.or_eq_true, decide_eq_true_eq] at isInteger
  rcases isInteger with isDigit | rfl
  · exact Nat.le_trans (by decide) (Char.isDigit_iff_toNat.1 isDigit).1
  · decide

private theorem keepsLine_separator (isLast : Bool) :
    KeepsLine (if isLast then [] else [',', ' ']) := by
  cases isLast <;> simp

mutual

/-- A plain document is written on one line. -/
theorem keepsLine_writeList (document : Document) (plain : isPlain document = true) :
    KeepsLine (writeList document) := by
  cases document with
  | null => simp [writeList, writeLeaf]
  | bool flag => cases flag <;> simp [writeList, writeLeaf]
  | int number => exact keepsLine_integerText number
  | real _ => simp [isPlain] at plain
  | text text => exact keepsLine_writeText text
  | array items =>
    have inside := keepsLine_writeItems items (by simpa [isPlain] using plain)
    simp [writeList, inside]
  | object members =>
    rw [isPlain, Bool.and_eq_true] at plain
    simp [writeList, keepsLine_writeMembers members plain.2]
termination_by structural document

/-- Plain items are written on one line. -/
theorem keepsLine_writeItems (items : List Document) (plain : allPlain items = true) :
    KeepsLine (writeItems items) := by
  cases items with
  | nil => simp [writeItems]
  | cons item later =>
    rw [allPlain, Bool.and_eq_true] at plain
    simp only [writeItems, keepsLine_append]
    exact ⟨⟨keepsLine_writeList item plain.1, keepsLine_separator _⟩,
      keepsLine_writeItems later plain.2⟩
termination_by structural items

/-- Plain members are written on one line. -/
theorem keepsLine_writeMembers (members : List (String × Document))
    (plain : allMembersPlain members = true) : KeepsLine (writeMembers members) := by
  cases members with
  | nil => simp [writeMembers]
  | cons member later =>
    obtain ⟨name, document⟩ := member
    rw [allMembersPlain, Bool.and_eq_true] at plain
    simp only [writeMembers, keepsLine_append]
    exact ⟨⟨⟨⟨keepsLine_writeText name, by simp⟩, keepsLine_writeList document plain.1⟩,
      keepsLine_separator _⟩, keepsLine_writeMembers later plain.2⟩
termination_by structural members

end

/-- The text of a plain document keeps to one line. -/
theorem keepsLine_write {document : Document} (plain : isPlain document = true) :
    KeepsLine (write document).toList := by
  simpa [write] using keepsLine_writeList document plain

mutual

/-- In a plain document no integer has too many digits. -/
theorem isOversized_of_isPlain (document : Document) (plain : isPlain document = true) :
    document.isOversized = false := by
  cases document with
  | null | bool _ | real _ | text _ => rfl
  | int number => simpa [isPlain, Document.isOversized] using plain
  | array items => exact anyOversized_of_allPlain items (by simpa [isPlain] using plain)
  | object members =>
    rw [isPlain, Bool.and_eq_true] at plain
    exact anyMemberOversized_of_allMembersPlain members plain.2
termination_by structural document

/-- Nor is there one in plain items. -/
theorem anyOversized_of_allPlain (items : List Document) (plain : allPlain items = true) :
    Document.anyOversized items = false := by
  cases items with
  | nil => rfl
  | cons item later =>
    rw [allPlain, Bool.and_eq_true] at plain
    simp [Document.anyOversized, isOversized_of_isPlain item plain.1,
      anyOversized_of_allPlain later plain.2]
termination_by structural items

/-- Nor is there one in plain members. -/
theorem anyMemberOversized_of_allMembersPlain (members : List (String × Document))
    (plain : allMembersPlain members = true) : Document.anyMemberOversized members = false := by
  cases members with
  | nil => rfl
  | cons member later =>
    obtain ⟨name, document⟩ := member
    rw [allMembersPlain, Bool.and_eq_true] at plain
    simp [Document.anyMemberOversized, isOversized_of_isPlain document plain.1,
      anyMemberOversized_of_allMembersPlain later plain.2]
termination_by structural members

end

/-- Members are plain when all their values are. -/
theorem allMembersPlain_iff {members : List (String × Document)} :
    allMembersPlain members = true ↔ ∀ member ∈ members, isPlain member.2 = true := by
  induction members with
  | nil => simp [allMembersPlain]
  | cons member later inductionHypothesis =>
    rw [allMembersPlain, Bool.and_eq_true, inductionHypothesis, List.forall_mem_cons]

/-- All members are plain. -/
def HoldsPlain (entries : Entries Document) : Prop :=
  ∀ name value, entries.find? name = some value → isPlain value = true

/-- An object is plain when its members are. -/
theorem isPlain_object_iff {entries : Entries Document} :
    isPlain (.object entries.pairs) = true ↔ HoldsPlain entries := by
  rw [isPlain, Bool.and_eq_true, decide_eq_true_eq, allMembersPlain_iff,
    and_iff_right entries.distinct]
  exact ⟨fun plain name value isFound => plain (name, value) (Entries.mem_pairs_iff.2 isFound),
    fun plain member isMember => plain member.1 member.2 (Entries.mem_pairs_iff.1 isMember)⟩

/-- Members stay plain when a plain one is written. -/
theorem HoldsPlain.insert {entries : Entries Document} (plain : HoldsPlain entries) (name : String)
    {value : Document} (valuePlain : isPlain value = true) :
    HoldsPlain (entries.insert name value) := by
  intro other found isFound
  rw [Entries.find?_insert] at isFound
  split at isFound
  · exact Option.some.inj isFound ▸ valuePlain
  · exact plain other found isFound

/-- A map of plain members. -/
theorem holdsPlain_ofList {members : List (String × Document)}
    (plain : ∀ member ∈ members, isPlain member.2 = true) :
    HoldsPlain (Entries.ofList members) := by
  intro name value isFound
  rw [Entries.find?_ofList] at isFound
  exact plain (name, value) (Pairs.mem_valuesAt.1 (List.mem_of_getLast? isFound))

end Keyspace.Json
