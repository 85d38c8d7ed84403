import Keyspace.Number.Reading
import Keyspace.Number.Shortest
import Keyspace.Proofs.Text.Percent
import Mathlib.Algebra.Group.Nat.Defs

/-!
# Reading written integers back

An integer is written with ASCII digits and perhaps a minus sign in front. Reading finds no blanks
around them and no underscores between them, and gives the integer, unless it is oversized.
-/

namespace Keyspace.Number

/-- The digits of a number start with a digit. -/
theorem exists_toDigits_eq_cons (number : Nat) :
    ∃ first later, Nat.toDigits 10 number = first :: later ∧ first.isDigit = true := by
  obtain ⟨first, later, isDigits⟩ := List.exists_cons_of_ne_nil
    (Nat.toDigits_ne_nil (n := number) (b := 10))
  refine ⟨first, later, isDigits, ?_⟩
  exact Nat.isDigit_of_mem_toDigits (b := 10) (n := number) (by decide) (by decide)
    (by simp [isDigits])

/-- An integer starts with a digit, or with a minus sign and a digit. -/
theorem integerText_front (number : Int) :
    ∃ first later, (integerText number).toList = first :: later ∧
      (first.isDigit = true ∨
        first = '-' ∧ ∃ digit more, later = digit :: more ∧ digit.isDigit = true) := by
  obtain ⟨first, later, isDigits, isDigit⟩ := exists_toDigits_eq_cons number.natAbs
  by_cases negative : number < 0
  · exact ⟨'-', first :: later, by simp [integerText, negative, isDigits],
      .inr ⟨rfl, first, later, rfl, isDigit⟩⟩
  · exact ⟨first, later, by simp [integerText, negative, isDigits], .inl isDigit⟩

theorem isDigit_of_mem_toDigits (number : Nat) :
    ∀ digit ∈ Nat.toDigits 10 number, digit.isDigit = true := fun _ isDigit =>
  Nat.isDigit_of_mem_toDigits (by decide) (by decide) isDigit

/-- What integers are written with. -/
def isIntegerCharacter (character : Char) : Bool := character.isDigit || character = '-'

/-- An integer is written with digits and a minus sign. -/
theorem isIntegerCharacter_of_mem_integerText (number : Int) :
    ∀ character ∈ (integerText number).toList, isIntegerCharacter character = true := by
  intro character isWritten
  simp only [integerText, String.toList_ofList] at isWritten
  split at isWritten
  · rcases List.mem_cons.1 isWritten with rfl | isDigit
    · rfl
    · simp [isIntegerCharacter, isDigit_of_mem_toDigits _ character isDigit]
  · simp [isIntegerCharacter, isDigit_of_mem_toDigits _ character isWritten]

/-- The digits of an integer that is not oversized keep to the limit. -/
theorem length_toDigits_le {number : Int} (small : isOversized number = false) :
    (Nat.toDigits 10 number.natAbs).length ≤ digitLimit := by
  rw [Nat.length_toDigits_le_iff (by decide) (by decide)]
  simpa [isOversized] using small

theorem digitsValue_toDigits (number : Nat) : digitsValue (Nat.toDigits 10 number) = number :=
  Nat.ofDigitChars_ten_toDigits

/-- What integers are written with is neither blank nor an underscore, and its digits are plain. -/
theorem plain_of_isIntegerCharacter {character : Char}
    (isInteger : isIntegerCharacter character = true) :
    Text.isNumeralBlank character = false ∧ character ≠ '_' ∧
      plainDigits [character] = [character] := by
  have unreserved : Text.Percent.isUnreserved character = true := by
    simp only [isIntegerCharacter, Bool.or_eq_true, decide_eq_true_eq] at isInteger
    rcases isInteger with isDigit | rfl
    · simp [Text.Percent.isUnreserved, Char.isAlphanum, isDigit]
    · decide
  have ascii : ∀ character : Char, character.toNat < 128 → isIntegerCharacter character = true →
      Text.isNumeralBlank character = false ∧ character ≠ '_' ∧
        plainDigits [character] = [character] := Text.Percent.forall_ascii (by decide +kernel)
  exact ascii character (Text.Percent.toNat_lt_of_isUnreserved unreserved) isInteger

private theorem trimBy_eq_self {removable : Char → Bool} {text : List Char}
    (kept : ∀ character ∈ text, removable character = false) :
    Text.trimBy removable text = text := by
  have dropped : ∀ {text : List Char}, (∀ character ∈ text, removable character = false) →
      text.dropWhile removable = text := by
    intro text kept
    cases text with
    | nil => rfl
    | cons first later => simp [kept first]
  have keptReversed : ∀ character ∈ text.reverse, removable character = false :=
    fun character isText => kept character (List.mem_reverse.1 isText)
  rw [Text.trimBy, dropped kept, dropped keptReversed, List.reverse_reverse]

private theorem withoutUnderscores?_eq_self {text : List Char} {previous : Char}
    (after : previous ≠ '_') (none : ∀ character ∈ text, character ≠ '_') :
    withoutUnderscores? previous text = some text := by
  induction text generalizing previous with
  | nil => simp [withoutUnderscores?, after]
  | cons character later inductionHypothesis =>
    have apart := none character (by simp)
    simp [withoutUnderscores?, apart, after,
      inductionHypothesis apart fun other isOther => none other (by simp [isOther])]

/-- A numeral of digits and minus signs is taken as it is. -/
theorem numeral?_of_integerCharacters {text : String}
    (plain : ∀ character ∈ text.toList, isIntegerCharacter character = true) :
    numeral? text = some text.toList := by
  have digits : plainDigits text.toList = text.toList := by
    have each : ∀ character ∈ text.toList, plainDigits [character] = [character] :=
      fun character isText => (plain_of_isIntegerCharacter (plain character isText)).2.2
    simp only [plainDigits, List.map_cons, List.map_nil, List.cons.injEq, and_true] at each
    exact (List.map_congr_left each).trans (List.map_id _)
  rw [numeral?, trimBy_eq_self fun character isText =>
    (plain_of_isIntegerCharacter (plain character isText)).1, digits]
  exact withoutUnderscores?_eq_self (by decide) fun character isText =>
    (plain_of_isIntegerCharacter (plain character isText)).2.1

/-- The sign of an integer is told apart from its digits. -/
theorem takeSign_integerText (number : Int) :
    takeSign (integerText number).toList =
      (decide (number < 0), Nat.toDigits 10 number.natAbs) := by
  by_cases negative : number < 0
  · simp [integerText, negative, takeSign]
  · obtain ⟨first, later, isDigits, isDigit⟩ := exists_toDigits_eq_cons number.natAbs
    have written : (integerText number).toList = first :: later := by
      simp [integerText, negative, isDigits]
    rw [written, isDigits, takeSign]
    · simp [negative]
    · rintro _ same
      rw [(List.cons.inj same).1] at isDigit
      simp at isDigit
    · rintro _ same
      rw [(List.cons.inj same).1] at isDigit
      simp at isDigit

/-- An integer has the value of its digits with its sign. -/
theorem signed_natAbs (number : Int) :
    Binary64.signed (decide (number < 0)) number.natAbs = number := by
  unfold Binary64.signed
  split
  · next negative =>
    have below := of_decide_eq_true negative
    omega
  · next notNegative =>
    have above := of_decide_eq_false (Bool.eq_false_iff.2 notNegative)
    omega

/-- An integer reads back from its text. -/
theorem readInteger?_integerText {number : Int} (small : isOversized number = false) :
    readInteger? (integerText number) = some number := by
  have few : ¬ digitLimit < (Nat.toDigits 10 number.natAbs).length :=
    Nat.not_lt.2 (length_toDigits_le small)
  have allDigits := isDigit_of_mem_toDigits number.natAbs
  simpa [readInteger?, numeral?_of_integerCharacters (isIntegerCharacter_of_mem_integerText number),
    takeSign_integerText, Nat.toDigits_ne_nil, few, digitsValue_toDigits, signed_natAbs] using
    allDigits

/-- Digits behind a number make one with as many digits more. -/
theorem ofDigitChars_lt {digits : List Char} (areDigits : ∀ digit ∈ digits, digit.isDigit = true)
    (number : Nat) : Nat.ofDigitChars 10 digits number < 10 ^ digits.length * (number + 1) := by
  induction digits generalizing number with
  | nil => simp [Nat.ofDigitChars]
  | cons digit later inductionHypothesis =>
    have small : digit.toNat - '0'.toNat < 10 := by
      have isDigit := areDigits digit (by simp)
      simp only [Char.isDigit, Bool.and_eq_true, decide_eq_true_eq] at isDigit
      have below : digit.toNat ≤ 57 := isDigit.2
      have zero : '0'.toNat = 48 := rfl
      omega
    have onward := inductionHypothesis (fun other isOther => areDigits other (by simp [isOther]))
      (10 * number + (digit.toNat - '0'.toNat))
    rw [Nat.ofDigitChars_cons, List.length_cons, Nat.pow_succ]
    refine Nat.lt_of_lt_of_le onward ?_
    rw [Nat.mul_assoc]
    exact Nat.mul_le_mul_left _ (by omega)

/-- An integer that has been read is not oversized. -/
theorem isOversized_of_readInteger? {text : String} {number : Int}
    (isRead : readInteger? text = some number) : isOversized number = false := by
  obtain ⟨characters, -, isRead⟩ := Option.bind_eq_some_iff.1 isRead
  generalize takeSign characters = signAndDigits at isRead
  obtain ⟨negative, digits⟩ := signAndDigits
  simp only [Option.ite_none_left_eq_some, Bool.or_eq_true, decide_eq_true_eq, not_or,
    Option.some.injEq] at isRead
  obtain ⟨⟨⟨-, allDigits⟩, few⟩, rfl⟩ := isRead
  have areDigits : ∀ digit ∈ digits, digit.isDigit = true := by simpa using allDigits
  have bound : digitsValue digits < 10 ^ digitLimit := by
    have below := ofDigitChars_lt areDigits 0
    rw [Nat.zero_add, Nat.mul_one] at below
    exact Nat.lt_of_lt_of_le below (Nat.pow_le_pow_right (by decide) (Nat.not_lt.1 few))
  have magnitude : (Binary64.signed negative (digitsValue digits)).natAbs = digitsValue digits := by
    unfold Binary64.signed
    split <;> simp
  simpa [isOversized, magnitude] using bound

end Keyspace.Number
