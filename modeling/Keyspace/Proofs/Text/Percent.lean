import Keyspace.Proofs.Text.Utf8
import Keyspace.Text.Hexadecimal
import Keyspace.Text.Percent

/-!
# Reading percent encoding back

An escape stands for the octet that its two digits write, and every other character for its own
octets. Whatever was escaped reads back as the text that it was, as long as a percent sign never
stands for itself.
-/

namespace Keyspace.Text.Percent

/-- The octets that a text stands for; a percent sign without two digits behind it is plain. -/
def octets : List Char → List UInt8
  | '%' :: high :: low :: rest =>
    match hexValue? high, hexValue? low with
    | some upper, some lower => UInt8.ofNat (upper * 16 + lower) :: octets rest
    | _, _ => String.utf8EncodeChar '%' ++ octets (high :: low :: rest)
  | character :: rest => String.utf8EncodeChar character ++ octets rest
  | [] => []

/-- The text that a text with escapes stands for. -/
def decode (text : List Char) : List Char := Utf8.decode (octets text)

theorem hexValue?_hexDigit : ∀ value < 16, hexValue? (hexDigit value) = some value := by decide

/-- An escape stands for its octet. -/
theorem octets_escapeOctet (octet : UInt8) (rest : List Char) :
    octets (escapeOctet octet ++ rest) = octet :: octets rest := by
  have small : octet.toNat < 256 := octet.toNat_lt
  have whole : octet.toNat / 16 * 16 + octet.toNat % 16 = octet.toNat := by omega
  simp only [escapeOctet, List.cons_append, List.nil_append, octets,
    hexValue?_hexDigit (octet.toNat / 16) (by omega),
    hexValue?_hexDigit (octet.toNat % 16) (by omega), whole, UInt8.ofNat_toNat]

/-- A character other than the percent sign stands for its octets. -/
theorem octets_cons {character : Char} (plain : character ≠ '%') (rest : List Char) :
    octets (character :: rest) = String.utf8EncodeChar character ++ octets rest := by
  rw [octets]
  intro _ _ _ same
  exact absurd same plain

/-- An escaped character stands for its octets. -/
theorem octets_escape (character : Char) (rest : List Char) :
    octets (escape character ++ rest) = String.utf8EncodeChar character ++ octets rest := by
  unfold escape
  induction String.utf8EncodeChar character with
  | nil => rfl
  | cons octet later inductionHypothesis =>
    simp [octets_escapeOctet, inductionHypothesis]

/-- An encoded text stands for its octets. -/
theorem octets_encode {safe : Char → Bool} (escapes : safe '%' = false) (text : List Char) :
    octets (encode safe text) = Utf8.encode text := by
  unfold encode Utf8.encode
  induction text with
  | nil => rfl
  | cons character rest inductionHypothesis =>
    rw [List.flatMap_cons, List.flatMap_cons, ← inductionHypothesis]
    split
    · next isSafe =>
      have plain : character ≠ '%' := by
        rintro rfl
        simp [escapes] at isSafe
      exact octets_cons plain _
    · exact octets_escape character _

/-- Decoding undoes encoding. -/
theorem decode_encode {safe : Char → Bool} (escapes : safe '%' = false) (text : List Char) :
    decode (encode safe text) = text := by
  rw [decode, octets_encode escapes, Utf8.decode_encode]

/-- Different texts are encoded differently. -/
theorem encode_inj {safe : Char → Bool} (escapes : safe '%' = false) {text other : List Char} :
    encode safe text = encode safe other ↔ text = other := by
  constructor
  · intro same
    have decoded := congrArg decode same
    rwa [decode_encode escapes, decode_encode escapes] at decoded
  · rintro rfl
    rfl

/-- A text of safe characters is its own encoding. -/
theorem encode_of_safe {safe : Char → Bool} {text : List Char}
    (isSafe : ∀ character ∈ text, safe character = true) : encode safe text = text := by
  unfold encode
  induction text with
  | nil => rfl
  | cons character rest inductionHypothesis =>
    rw [List.flatMap_cons, if_pos (isSafe character (by simp)),
      inductionHypothesis fun other isOther => isSafe other (by simp [isOther])]
    rfl

/-- An escaped character is written with percent signs and digits. -/
theorem forall_mem_escape {property : Char → Prop} (character : Char) (sign : property '%')
    (digits : ∀ value < 16, property (hexDigit value)) :
    ∀ written ∈ escape character, property written := by
  intro written isWritten
  obtain ⟨octet, -, isWritten⟩ := List.mem_flatMap.1 isWritten
  have small : octet.toNat < 256 := octet.toNat_lt
  simp only [escapeOctet, List.mem_cons, List.not_mem_nil, or_false] at isWritten
  rcases isWritten with rfl | rfl | rfl
  · exact sign
  · exact digits _ (by omega)
  · exact digits _ (by omega)

/-- An escaped character is written with a percent sign. -/
theorem sign_mem_escape (character : Char) : '%' ∈ escape character := by
  have isWritten : String.utf8EncodeChar character ≠ [] := by
    rw [ne_eq, ← List.length_eq_zero_iff, String.length_utf8EncodeChar]
    exact Nat.ne_of_gt character.utf8Size_pos
  obtain ⟨octet, later, areOctets⟩ := List.exists_cons_of_ne_nil isWritten
  simp [escape, areOctets, escapeOctet]

/-- An encoded text holds safe characters, percent signs and digits of escapes. -/
theorem forall_mem_encode {safe : Char → Bool} {property : Char → Prop} (text : List Char)
    (plain : ∀ character, safe character = true → property character) (sign : property '%')
    (digits : ∀ value < 16, property (hexDigit value)) :
    ∀ written ∈ encode safe text, property written := by
  intro written isWritten
  obtain ⟨character, -, isWritten⟩ := List.mem_flatMap.1 isWritten
  split at isWritten
  · next isSafe =>
    obtain rfl := List.mem_singleton.1 isWritten
    exact plain written isSafe
  · exact forall_mem_escape character sign digits written isWritten

theorem forall_ascii {property : Char → Prop} (codes : ∀ code < 128, property (Char.ofNat code))
    (character : Char) (ascii : character.toNat < 128) : property character := by
  have atCode := codes character.toNat ascii
  rwa [Char.ofNat_toNat] at atCode

/-- Unreserved characters are ASCII. -/
theorem toNat_lt_of_isUnreserved {character : Char} (unreserved : isUnreserved character = true) :
    character.toNat < 128 := by
  have isAlpha : character.isAlpha = (character.isUpper || character.isLower) := rfl
  have isUpper : character.isUpper =
      decide (character.val ≥ 'A'.val ∧ character.val ≤ 'Z'.val) := rfl
  have isLower : character.isLower =
      (decide (character.val ≥ 'a'.val) && decide (character.val ≤ 'z'.val)) := rfl
  simp only [isUnreserved, Char.isAlphanum, isAlpha, isUpper, isLower, Char.isDigit,
    Bool.or_eq_true, Bool.and_eq_true, decide_eq_true_eq] at unreserved
  rcases unreserved with (((((upper | lower) | digit) | rfl) | rfl) | rfl) | rfl
  · exact Nat.lt_of_le_of_lt upper.2 (by decide)
  · exact Nat.lt_of_le_of_lt lower.2 (by decide)
  · exact Nat.lt_of_le_of_lt digit.2 (by decide)
  all_goals decide

end Keyspace.Text.Percent
