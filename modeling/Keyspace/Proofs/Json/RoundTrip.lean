import Keyspace.Json.Reader
import Keyspace.Json.Writer
import Keyspace.Proofs.Number.Integer

/-!
# Reading written JSON back

Every part of a document reads back from what is written for it, whatever closes it behind:
texts character by character, integers by their digits, lists and objects by what they consist of.
Real numbers are left out, and the members of an object have different names. `read_write` is the
law for whole documents.
-/

namespace Keyspace.Json

/-- What may stand behind a value: nothing, or a mark that closes it. -/
def Closes (rest : List Char) : Prop := ∀ mark ∈ rest.head?, mark = ',' ∨ mark = ']' ∨ mark = '}'

private theorem textBody_escape {letter character : Char}
    (isEscape : escaped? letter = some character) (notCode : letter ≠ 'u') (opening : Nat)
    (written tail : List Char) :
    textBody opening none written ('\\' :: letter :: tail) =
      textBody opening none (character :: written) tail := by
  rw [textBody.eq_def]
  simp [notCode, isEscape, abandon]

private theorem codeUnit?_hexadecimal : ∀ code < 0x20,
    (match Text.hexadecimal 4 code with
      | [first, second, third, fourth] => codeUnit? first second third fourth
      | _ => none) = some code := by
  decide +kernel

private theorem textBody_codeEscape {code : Nat} (small : code < 0x20) (opening : Nat)
    (written : List Char) {tail : List Char} (goesOn : tail ≠ []) :
    textBody opening none written ('\\' :: 'u' :: (Text.hexadecimal 4 code ++ tail)) =
      textBody opening none (Char.ofNat code :: written) tail := by
  have digits := codeUnit?_hexadecimal code small
  split at digits
  · next first second third fourth isWritten =>
    have unit : takeUnit none written code = (none, Char.ofNat code :: written) := by
      rw [takeUnit, if_neg (by omega), if_neg (by omega)]
      rfl
    rw [isWritten, textBody.eq_def]
    simp [digits, goesOn, unit]
  · simp at digits

/-- A written character reads back when something follows. -/
theorem textBody_writeCharacter (character : Char) (opening : Nat) (written : List Char)
    {tail : List Char} (goesOn : tail ≠ []) :
    textBody opening none written (writeCharacter character ++ tail) =
      textBody opening none (character :: written) tail := by
  have code {number : Nat} (isCode : character.toNat = number) : Char.ofNat number = character := by
    rw [← isCode, Char.ofNat_toNat]
  unfold writeCharacter
  split
  · next isQuote =>
    subst isQuote
    exact textBody_escape rfl (by decide) _ _ _
  split
  · next isBackslash =>
    subst isBackslash
    exact textBody_escape rfl (by decide) _ _ _
  split
  · next isNewline =>
    subst isNewline
    exact textBody_escape rfl (by decide) _ _ _
  split
  · next isReturn =>
    subst isReturn
    exact textBody_escape rfl (by decide) _ _ _
  split
  · next isTab =>
    subst isTab
    exact textBody_escape rfl (by decide) _ _ _
  split
  · next isBackspace =>
    rw [← code isBackspace]
    exact textBody_escape rfl (by decide) _ _ _
  split
  · next isFormFeed =>
    rw [← code isFormFeed]
    exact textBody_escape rfl (by decide) _ _ _
  split
  · next small =>
    have escaped := textBody_codeEscape small opening written goesOn
    rwa [code rfl] at escaped
  · next notQuote notBackslash _ _ _ _ _ notControl =>
    rw [List.cons_append, List.nil_append, textBody.eq_def]
    simp [notQuote, notBackslash, notControl, abandon]

/-- The characters of a text read back up to the closing quote. -/
theorem textBody_written (opening : Nat) (characters written rest : List Char) :
    textBody opening none written (characters.flatMap writeCharacter ++ '"' :: rest) =
      .ok (written.reverse ++ characters, rest) := by
  induction characters generalizing written with
  | nil =>
    rw [List.flatMap_nil, List.nil_append, textBody.eq_def]
    simp [abandon]
  | cons character later inductionHypothesis =>
    rw [List.flatMap_cons, List.append_assoc, textBody_writeCharacter _ _ _ (by simp),
      inductionHypothesis]
    simp

private theorem head?_toDigits (number : Nat) (positive : 0 < number) :
    (Nat.toDigits 10 number).head? ≠ some '0' := by
  induction number using Nat.strongRecOn with
  | ind number inductionHypothesis =>
    rw [Nat.toDigits_eq_if (by decide)]
    split
    · next small =>
      have digits : ∀ digit < 10, 0 < digit → digit.digitChar ≠ '0' := by decide
      simpa using digits number small positive
    · next large =>
      have above := inductionHypothesis (number / 10) (by omega) (by omega)
      obtain ⟨first, later, isWritten⟩ := List.exists_cons_of_ne_nil
        (Nat.toDigits_ne_nil (n := number / 10) (b := 10))
      rw [isWritten] at above ⊢
      exact above

private theorem wholePart_toDigits (number : Nat) {rest : List Char}
    (ended : ∀ mark ∈ rest.head?, mark.isDigit = false) :
    wholePart (Nat.toDigits 10 number ++ rest) = (Nat.toDigits 10 number, rest) := by
  have allDigits := Number.isDigit_of_mem_toDigits number
  have none : rest.takeWhile Char.isDigit = [] ∧ rest.dropWhile Char.isDigit = rest := by
    cases rest with
    | nil => simp
    | cons mark later => simp [ended mark rfl]
  rcases Nat.eq_zero_or_pos number with rfl | positive
  · rfl
  · obtain ⟨first, later, isWritten⟩ := List.exists_cons_of_ne_nil
      (Nat.toDigits_ne_nil (n := number) (b := 10))
    have notZero : first ≠ '0' := by
      have front := head?_toDigits number positive
      simpa [isWritten] using front
    have taken : wholePart (Nat.toDigits 10 number ++ rest) =
        ((Nat.toDigits 10 number ++ rest).takeWhile Char.isDigit,
          (Nat.toDigits 10 number ++ rest).dropWhile Char.isDigit) := by
      rw [isWritten, List.cons_append, wholePart]
      simpa using notZero
    rw [taken, List.takeWhile_append_of_pos allDigits, List.dropWhile_append_of_pos allDigits,
      none.1, none.2, List.append_nil]

private theorem Closes.ends {rest : List Char} (closes : Closes rest) :
    (∀ mark ∈ rest.head?, mark.isDigit = false) ∧ fractionPart rest = (none, rest) ∧
      powerPart rest = (none, rest) := by
  cases rest with
  | nil => exact ⟨by simp, rfl, rfl⟩
  | cons mark later =>
    rcases closes mark rfl with rfl | rfl | rfl <;> exact ⟨by simp, rfl, rfl⟩

/-- An integer reads back from its digits. -/
theorem numeral_integerText {number : Int} (small : Number.isOversized number = false)
    {rest : List Char} (closes : Closes rest) :
    numeral ((Number.integerText number).toList ++ rest) = .ok (.int number, rest) := by
  obtain ⟨ended, noFraction, noPower⟩ := closes.ends
  have whole := wholePart_toDigits number.natAbs ended
  have isValue : ∀ start, integerValue start (decide (number < 0)) (Nat.toDigits 10 number.natAbs) =
      .ok (.int number) := by
    intro start
    have few : ¬ Number.digitLimit < (Nat.toDigits 10 number.natAbs).length :=
      Nat.not_lt.2 (Number.length_toDigits_le small)
    rw [integerValue, if_neg few, Number.digitsValue_toDigits, Number.signed_natAbs]
  obtain ⟨first, later, isDigits, isDigit⟩ := Number.exists_toDigits_eq_cons number.natAbs
  rw [isDigits] at whole isValue
  simp only [List.cons_append] at whole
  by_cases negative : number < 0
  · have written : (Number.integerText number).toList = '-' :: first :: later := by
      simp [Number.integerText, negative, isDigits]
    simp only [negative, decide_true] at isValue
    simp [numeral, written, whole, noFraction, noPower, isValue, Except.map]
  · have written : (Number.integerText number).toList = first :: later := by
      simp [Number.integerText, negative, isDigits]
    have notMinus : first ≠ '-' := by
      rintro rfl
      simp at isDigit
    simp only [negative, decide_false] at isValue
    simp [numeral, written, notMinus, whole, noFraction, noPower, isValue, Except.map]

mutual

/-- A document is plain when it has no real number and no oversized integer in it, and no object
with two members of one name. -/
def isPlain : Document → Bool
  | .int value => !Number.isOversized value
  | .real _ => false
  | .array items => allPlain items
  | .object members => decide (Pairs.keys members).Nodup && allMembersPlain members
  | _ => true
termination_by structural document => document

/-- All documents of a list are plain. -/
def allPlain : List Document → Bool
  | [] => true
  | item :: later => isPlain item && allPlain later
termination_by structural items => items

/-- All members are plain. -/
def allMembersPlain : List (String × Document) → Bool
  | [] => true
  | (_, value) :: later => isPlain value && allMembersPlain later
termination_by structural members => members

end

/-- A character that a value starts with: no blank, no closing bracket and no byte order mark. -/
def startsValue (first : Char) : Bool :=
  !isFiller first && first ≠ ']' && first ≠ Char.ofNat 0xFEFF

/-- A written document starts with a character that a value starts with. -/
theorem exists_writeList_eq_cons {document : Document} (plain : isPlain document = true) :
    ∃ first later, writeList document = first :: later ∧ startsValue first = true := by
  cases document with
  | null => exact ⟨_, _, rfl, by decide⟩
  | bool value => cases value <;> exact ⟨_, _, rfl, by decide⟩
  | real value => simp [isPlain] at plain
  | text value => exact ⟨_, _, rfl, by decide⟩
  | array items => exact ⟨_, _, rfl, by decide⟩
  | object members => exact ⟨_, _, rfl, by decide⟩
  | int value =>
    obtain ⟨first, later, isWritten, front⟩ := Number.integerText_front value
    refine ⟨first, later, isWritten, ?_⟩
    rcases front with isDigit | ⟨rfl, -⟩
    · have apart : ∀ other : Char, other.isDigit = false → first ≠ other := by
        rintro other notDigit rfl
        simp [notDigit] at isDigit
      simp [startsValue, isFiller, apart ' ' (by decide), apart '\t' (by decide),
        apart '\n' (by decide), apart '\r' (by decide), apart ']' (by decide),
        apart (Char.ofNat 0xFEFF) (by decide)]
    · decide

private theorem named?_integerText (number : Int) (rest : List Char) :
    named? ((Number.integerText number).toList ++ rest) = none := by
  obtain ⟨first, later, isWritten, front⟩ := Number.integerText_front number
  rw [isWritten]
  rcases front with isDigit | ⟨rfl, digit, more, rfl, isDigit⟩
  · have apart : ∀ letter : Char, letter.isDigit = false → letter ≠ first := by
      rintro letter notDigit rfl
      simp [notDigit] at isDigit
    simp [named?, names, Text.after?, apart 'n' (by decide), apart 't' (by decide),
      apart 'f' (by decide), apart 'N' (by decide), apart 'I' (by decide), apart '-' (by decide)]
  · have apart : 'I' ≠ digit := by
      rintro rfl
      simp at isDigit
    simp [named?, names, Text.after?, apart]

private theorem value_leaf {first : Char} (notText : first ≠ '"') (notObject : first ≠ '\x7b')
    (notArray : first ≠ '[') (fuel : Nat) (later : List Char) :
    value (fuel + 1) (first :: later) = leaf (first :: later) := by
  rw [value]
  · exact fun _ same => notText (List.cons.inj same).1
  · exact fun _ same => notObject (List.cons.inj same).1
  · exact fun _ same => notArray (List.cons.inj same).1

private theorem value_integerText {number : Int} (small : Number.isOversized number = false)
    {rest : List Char} (closes : Closes rest) (fuel : Nat) :
    value (fuel + 1) ((Number.integerText number).toList ++ rest) = .ok (.int number, rest) := by
  have inOnePiece :
      leaf ((Number.integerText number).toList ++ rest) = .ok (.int number, rest) := by
    rw [leaf, named?_integerText]
    exact numeral_integerText small closes
  obtain ⟨first, later, isWritten, front⟩ := Number.integerText_front number
  rw [isWritten, List.cons_append] at inOnePiece ⊢
  rw [← inOnePiece]
  rcases front with isDigit | ⟨rfl, -⟩
  · refine value_leaf ?_ ?_ ?_ fuel _ <;> rintro rfl <;> simp at isDigit
  · exact value_leaf (by decide) (by decide) (by decide) fuel _

private theorem value_name {name : List Char} {document : Document} {first : Char}
    (isName : ∀ rest, named? (first :: name ++ rest) = some (document, rest))
    (notText : first ≠ '"') (notObject : first ≠ '\x7b') (notArray : first ≠ '[') (fuel : Nat)
    (rest : List Char) : value (fuel + 1) (first :: name ++ rest) = .ok (document, rest) := by
  have inOnePiece : leaf (first :: name ++ rest) = .ok (document, rest) := by rw [leaf, isName]
  rw [← inOnePiece]
  exact value_leaf notText notObject notArray fuel _

private theorem skipFiller_cons {first : Char} (notFiller : isFiller first = false)
    (later : List Char) : skipFiller (first :: later) = first :: later := by
  simp [skipFiller, notFiller]

private theorem skipFiller_value {text : List Char}
    (front : ∃ first later, text = first :: later ∧ startsValue first = true) (tail : List Char) :
    skipFiller (text ++ tail) = text ++ tail := by
  obtain ⟨first, later, rfl, starts⟩ := front
  simp only [startsValue, Bool.and_eq_true, Bool.not_eq_true'] at starts
  exact skipFiller_cons starts.1.1 _

private theorem skipFiller_blank {text : List Char}
    (front : ∃ first later, text = first :: later ∧ startsValue first = true) (tail : List Char) :
    skipFiller (' ' :: (text ++ tail)) = text ++ tail :=
  skipFiller_value front tail

private theorem exists_fuel {document : Document} {fuel : Nat} (plain : isPlain document = true)
    (enough : (writeList document).length ≤ fuel) : ∃ less, fuel = less + 1 := by
  obtain ⟨first, later, isWritten, -⟩ := exists_writeList_eq_cons plain
  rw [isWritten, List.length_cons] at enough
  exact Nat.exists_eq_add_of_le' (by omega)

private theorem value_writeText (text : String) (fuel : Nat) (rest : List Char) :
    value (fuel + 1) (writeText text ++ rest) = .ok (.text text, rest) := by
  simp only [writeText, List.cons_append, List.append_assoc, List.nil_append]
  rw [value, textBody_written]
  simp [bind, Except.bind, pure, Except.pure]

private theorem exists_writeItems_eq_cons {item : Document} (plain : isPlain item = true)
    (later : List Document) :
    ∃ first more, writeItems (item :: later) = first :: more ∧ startsValue first = true := by
  obtain ⟨first, more, isWritten, starts⟩ := exists_writeList_eq_cons plain
  rw [writeItems, isWritten]
  exact ⟨first, _, rfl, starts⟩

private theorem exists_writeMembers_eq_cons (member : String × Document)
    (later : List (String × Document)) :
    ∃ more, writeMembers (member :: later) = '"' :: more := by
  rw [writeMembers, writeText]
  exact ⟨_, rfl⟩

mutual

/-- A plain document reads back, with as much fuel as it has characters. -/
theorem value_writeList (document : Document) (plain : isPlain document = true) (fuel : Nat)
    (enough : (writeList document).length ≤ fuel) (rest : List Char) (closes : Closes rest) :
    value fuel (writeList document ++ rest) = .ok (document, rest) := by
  obtain ⟨fuel, rfl⟩ := exists_fuel plain enough
  cases document with
  | null => exact value_name (fun _ => rfl) (by decide) (by decide) (by decide) fuel rest
  | bool flag =>
    cases flag <;> exact value_name (fun _ => rfl) (by decide) (by decide) (by decide) fuel rest
  | int number => exact value_integerText (by simpa [isPlain] using plain) closes fuel
  | real _ => simp [isPlain] at plain
  | text text => exact value_writeText text fuel rest
  | array list =>
    cases list with
    | nil => rfl
    | cons item later =>
      have itemsPlain : allPlain (item :: later) = true := by simpa [isPlain] using plain
      have read := items_writeItems (item :: later) (by simp) itemsPlain fuel
        (by simpa [writeList] using enough) [] rest
      rw [allPlain, Bool.and_eq_true] at itemsPlain
      have front := exists_writeItems_eq_cons itemsPlain.1 later
      simp only [writeList, List.cons_append, List.append_assoc, List.nil_append]
      rw [value, skipFiller_value front]
      obtain ⟨first, more, isWritten, starts⟩ := front
      rw [isWritten] at read ⊢
      split
      · next same =>
        rw [(List.cons.inj same).1] at starts
        exact absurd starts (by decide)
      · exact read
  | object list =>
    cases list with
    | nil => rfl
    | cons member later =>
      rw [isPlain, Bool.and_eq_true, decide_eq_true_eq] at plain
      have read := members_writeMembers (member :: later) (by simp) plain.2 fuel
        (by simpa [writeList] using enough) [] plain.1 rest
      obtain ⟨more, isWritten⟩ := exists_writeMembers_eq_cons member later
      rw [isWritten] at read
      simp only [writeList, isWritten, List.cons_append, List.append_assoc,
        List.nil_append] at read ⊢
      rw [value, skipFiller_cons (by decide)]
      exact read
termination_by structural document

/-- Plain items read back behind those already read. -/
theorem items_writeItems (list : List Document) (nonempty : list ≠ [])
    (plain : allPlain list = true) (fuel : Nat) (enough : (writeItems list).length + 1 ≤ fuel)
    (read : List Document) (rest : List Char) :
    items fuel read (writeItems list ++ ']' :: rest) =
      .ok (.array (read.reverse ++ list), rest) := by
  obtain ⟨fuel, rfl⟩ : ∃ less, fuel = less + 1 := Nat.exists_eq_add_of_le' (by omega)
  cases list with
  | nil => exact absurd rfl nonempty
  | cons item later =>
    rw [allPlain, Bool.and_eq_true] at plain
    have itemRead := value_writeList item plain.1 fuel
    cases later with
    | nil =>
      simp only [writeItems, List.isEmpty_nil, if_true, List.append_nil] at enough ⊢
      rw [items, itemRead (by omega) _ (by simp [Closes])]
      simp [bind, Except.bind, skipFiller_cons (show isFiller ']' = false by decide)]
    | cons next others =>
      have laterRead := items_writeItems (next :: others) (by simp) plain.2 fuel
      have nextPlain := plain.2
      rw [allPlain, Bool.and_eq_true] at nextPlain
      have front := exists_writeItems_eq_cons nextPlain.1 others
      rw [writeItems] at enough ⊢
      simp only [List.isEmpty_cons, Bool.false_eq_true, if_false, List.length_append,
        List.length_cons, List.append_assoc, List.cons_append, List.nil_append] at enough ⊢
      rw [items, itemRead (by omega) _ (by simp [Closes])]
      simp only [bind, Except.bind, skipFiller_cons (show isFiller ',' = false by decide)]
      rw [skipFiller_blank front, laterRead (by omega)]
      simp
termination_by structural list

/-- Plain members with new names read back behind those already read. -/
theorem members_writeMembers (list : List (String × Document)) (nonempty : list ≠ [])
    (plain : allMembersPlain list = true) (fuel : Nat)
    (enough : (writeMembers list).length + 1 ≤ fuel) (read : List (String × Document))
    (distinct : (Pairs.keys (read ++ list)).Nodup) (rest : List Char) :
    members fuel read (writeMembers list ++ '\x7d' :: rest) =
      .ok (.object (read ++ list), rest) := by
  obtain ⟨fuel, rfl⟩ : ∃ less, fuel = less + 1 := Nat.exists_eq_add_of_le' (by omega)
  cases list with
  | nil => exact absurd rfl nonempty
  | cons member later =>
    obtain ⟨name, document⟩ := member
    rw [allMembersPlain, Bool.and_eq_true] at plain
    have memberRead := value_writeList document plain.1 fuel
    have front := exists_writeList_eq_cons plain.1
    have absent : name ∉ Pairs.keys read := by
      simp only [Pairs.keys, List.map_append, List.map_cons, List.nodup_append] at distinct
      exact fun isRead => distinct.2.2 name isRead name (by simp) rfl
    have inserted := Pairs.insert_of_not_mem document absent
    cases later with
    | nil =>
      simp only [writeMembers, writeText, List.isEmpty_nil, if_true, List.append_nil,
        List.length_append, List.length_cons, List.append_assoc, List.cons_append,
        List.nil_append] at enough ⊢
      rw [members, textBody_written]
      simp only [bind, Except.bind, skipFiller_cons (show isFiller ':' = false by decide),
        List.reverse_nil, List.nil_append, String.ofList_toList]
      rw [skipFiller_blank front, memberRead (by omega) _ (by simp [Closes])]
      simp [skipFiller_cons (show isFiller '\x7d' = false by decide), inserted]
    | cons next others =>
      have laterRead := members_writeMembers (next :: others) (by simp) plain.2 fuel
      obtain ⟨nextMore, nextWritten⟩ := exists_writeMembers_eq_cons next others
      rw [writeMembers] at enough ⊢
      simp only [writeText, List.isEmpty_cons, Bool.false_eq_true, if_false, List.length_append,
        List.length_cons, List.append_assoc, List.cons_append, List.nil_append] at enough ⊢
      rw [members, textBody_written]
      simp only [bind, Except.bind, skipFiller_cons (show isFiller ':' = false by decide),
        List.reverse_nil, List.nil_append, String.ofList_toList]
      rw [skipFiller_blank front, memberRead (by omega) _ (by simp [Closes])]
      simp only [skipFiller_cons (show isFiller ',' = false by decide), inserted]
      rw [skipFiller_blank ⟨'"', nextMore, nextWritten, by decide⟩,
        laterRead (by omega) _ (by simpa using distinct)]
      simp
termination_by structural list

end

/-- A plain document reads back from its text. -/
theorem read_write {document : Document} (plain : isPlain document = true) :
    read (write document) = .ok document := by
  have whole := value_writeList document plain (2 * (writeList document).length + 2) (by omega) []
    (by simp [Closes])
  have notSkipped := skipFiller_value (exists_writeList_eq_cons plain) []
  rw [List.append_nil] at whole notSkipped
  obtain ⟨first, later, isWritten, starts⟩ := exists_writeList_eq_cons plain
  have noMark : (writeList document).head? ≠ some (Char.ofNat 0xFEFF) := by
    simp only [startsValue, Bool.and_eq_true, decide_eq_true_eq] at starts
    simpa [isWritten] using starts.2
  simp only [read, write, String.toList_ofList, if_neg noMark, notSkipped, whole]
  rfl

end Keyspace.Json
