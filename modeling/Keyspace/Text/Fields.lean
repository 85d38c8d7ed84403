/-!
# Fields of a text

Paths, addresses and forms are texts of fields parted by one separating character.
-/

namespace Keyspace.Text

/-- The fields of a text between the occurrences of a separator; there is always at least one. -/
def fields (separator : Char) (text : List Char) : List (List Char) :=
  text.foldr (fun character parts =>
    if character = separator then [] :: parts
    else match parts with
      | [] => [[character]]
      | field :: later => (character :: field) :: later) [[]]

/-- Put fields together again. -/
def unfields (separator : Char) (parts : List (List Char)) : List Char :=
  List.intercalate [separator] parts

theorem unfields_cons_cons (separator : Char) (part next : List Char) (others : List (List Char)) :
    unfields separator (part :: next :: others) =
      part ++ separator :: unfields separator (next :: others) := by
  simp [unfields, List.intercalate]

/-- There is at least one field. -/
theorem fields_ne_nil (separator : Char) (text : List Char) : fields separator text ≠ [] := by
  cases text with
  | nil => simp [fields]
  | cons character rest =>
    simp only [fields, List.foldr_cons]
    split
    · simp
    · split <;> simp

/-- The first character of a text starts a field of its own or belongs to the first one. -/
theorem fields_cons (separator character : Char) (rest : List Char) :
    fields separator (character :: rest) =
      if character = separator then [] :: fields separator rest
      else match fields separator rest with
        | [] => [[character]]
        | field :: later => (character :: field) :: later := rfl

/-- A character other than the separator belongs to the first field. -/
theorem fields_cons_of_ne {separator character : Char} (apart : character ≠ separator)
    (rest : List Char) : ∃ field later, fields separator rest = field :: later ∧
      fields separator (character :: rest) = (character :: field) :: later := by
  have nonempty := fields_ne_nil separator rest
  cases parts : fields separator rest with
  | nil => exact absurd parts nonempty
  | cons field later => exact ⟨field, later, rfl, by rw [fields_cons, if_neg apart, parts]⟩

/-- The fields of a text, put together, are the text. -/
theorem unfields_fields (separator : Char) (text : List Char) :
    unfields separator (fields separator text) = text := by
  induction text with
  | nil => rfl
  | cons character rest inductionHypothesis =>
    have nonempty := fields_ne_nil separator rest
    rw [fields_cons]
    generalize fields separator rest = parts at inductionHypothesis nonempty
    cases parts with
    | nil => exact absurd rfl nonempty
    | cons field later =>
      split
      · next same =>
        rw [← inductionHypothesis, same]
        simp [unfields, List.intercalate]
      · rw [← inductionHypothesis]
        cases later <;> simp [unfields, List.intercalate]

/-- A separator parts the fields before it from the fields after it. -/
theorem fields_append_separator (separator : Char) (before after : List Char) :
    fields separator (before ++ separator :: after) =
      fields separator before ++ fields separator after := by
  induction before with
  | nil => simp [fields]
  | cons character rest inductionHypothesis =>
    by_cases same : character = separator
    · subst same
      simpa [fields] using inductionHypothesis
    · obtain ⟨field, later, parted, longer⟩ := fields_cons_of_ne same rest
      obtain ⟨field', later', parted', longer'⟩ :=
        fields_cons_of_ne same (rest ++ separator :: after)
      rw [List.cons_append, longer', longer]
      rw [inductionHypothesis, parted] at parted'
      simp_all

/-- A text without the separator is its only field. -/
theorem fields_of_not_mem {separator : Char} {text : List Char} (absent : separator ∉ text) :
    fields separator text = [text] := by
  induction text with
  | nil => rfl
  | cons character rest inductionHypothesis =>
    have apart : character ≠ separator := (List.ne_of_not_mem_cons absent).symm
    obtain ⟨field, later, parted, longer⟩ := fields_cons_of_ne apart rest
    rw [inductionHypothesis (List.not_mem_of_not_mem_cons absent)] at parted
    cases parted
    exact longer

/-- Fields without separators, put together, are parted again. -/
theorem fields_unfields {separator : Char} {parts : List (List Char)} (nonempty : parts ≠ [])
    (absent : ∀ part ∈ parts, separator ∉ part) :
    fields separator (unfields separator parts) = parts := by
  induction parts with
  | nil => exact absurd rfl nonempty
  | cons part later inductionHypothesis =>
    have first := fields_of_not_mem (absent part (by simp))
    cases later with
    | nil => simpa [unfields] using first
    | cons next others =>
      have tail := inductionHypothesis (by simp) fun other isOther =>
        absent other (by simp [isOther])
      rw [unfields_cons_cons, fields_append_separator, first, tail]
      rfl

/-- No field holds the separator. -/
theorem not_mem_of_mem_fields {separator : Char} {text field : List Char}
    (isField : field ∈ fields separator text) : separator ∉ field := by
  induction text generalizing field with
  | nil =>
    obtain rfl : field = [] := List.mem_singleton.1 isField
    exact List.not_mem_nil
  | cons character rest inductionHypothesis =>
    by_cases same : character = separator
    · rw [fields_cons, if_pos same] at isField
      rcases List.mem_cons.1 isField with rfl | isLater
      · exact List.not_mem_nil
      · exact inductionHypothesis isLater
    · obtain ⟨first, later, parted, longer⟩ := fields_cons_of_ne same rest
      rw [longer] at isField
      rcases List.mem_cons.1 isField with rfl | isLater
      · have absent : separator ∉ first := inductionHypothesis (by simp [parted])
        simp [absent, Ne.symm same]
      · exact inductionHypothesis (by simp [parted, isLater])

/-- Fields put together hold their own characters and separators. -/
theorem mem_unfields {separator character : Char} {parts : List (List Char)}
    (isMember : character ∈ unfields separator parts) :
    character = separator ∨ ∃ part ∈ parts, character ∈ part := by
  induction parts with
  | nil => simp [unfields] at isMember
  | cons part later inductionHypothesis =>
    cases later with
    | nil => exact .inr ⟨part, by simp, by simpa [unfields] using isMember⟩
    | cons next others =>
      rw [unfields_cons_cons, List.mem_append, List.mem_cons] at isMember
      rcases isMember with inPart | isSeparator | inLater
      · exact .inr ⟨part, by simp, inPart⟩
      · exact .inl isSeparator
      · rcases inductionHypothesis inLater with isSeparator | ⟨other, isOther, inOther⟩
        · exact .inl isSeparator
        · exact .inr ⟨other, by simp [isOther], inOther⟩

/-- The text up to the last occurrence of a character, and the text after it. -/
def splitLast? (character : Char) (text : List Char) : Option (List Char × List Char) :=
  let after := text.reverse.takeWhile (· ≠ character)
  match text.reverse.dropWhile (· ≠ character) with
  | [] => none
  | _ :: before => some (before.reverse, after.reverse)

/-- Behind the last occurrence of a character stands a text without it. -/
theorem splitLast?_append {character : Char} (before : List Char) {after : List Char}
    (absent : character ∉ after) :
    splitLast? character (before ++ character :: after) = some (before, after) := by
  have other : ∀ x ∈ after.reverse, (decide (x ≠ character)) = true := by
    intro x isAfter
    have apart : x ≠ character := fun same => absent (same ▸ List.mem_reverse.1 isAfter)
    simpa using apart
  have reversed : (before ++ character :: after).reverse =
      after.reverse ++ character :: before.reverse := by simp
  simp only [splitLast?, reversed]
  rw [List.takeWhile_append_of_pos other, List.dropWhile_append_of_pos other]
  simp

/-- What follows a text at the front of another one. -/
def after? : List Char → List Char → Option (List Char)
  | [], text => some text
  | _ :: _, [] => none
  | expected :: start, character :: text =>
    if expected = character then after? start text else none

theorem after?_append (start text : List Char) : after? start (start ++ text) = some text := by
  induction start with
  | nil => rfl
  | cons _ _ inductionHypothesis => simp [after?, inductionHypothesis]

/-- What follows a start, put behind it, is the whole text. -/
theorem after?_eq_some {start text rest : List Char} (follows : after? start text = some rest) :
    text = start ++ rest := by
  induction start generalizing text with
  | nil => simpa [after?] using follows
  | cons expected _ inductionHypothesis =>
    cases text with
    | nil => simp [after?] at follows
    | cons character text =>
      by_cases same : expected = character
      · simp only [after?, same, if_true] at follows
        simp [same, inductionHypothesis follows]
      · simp [after?, same] at follows

end Keyspace.Text
