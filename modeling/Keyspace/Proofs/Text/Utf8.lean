import Keyspace.Text.Utf8

/-!
# Reading UTF-8 back

A decoder that stands between characters takes the octets of a character and stands between
characters again, with that character written. So decoding undoes encoding.
-/

namespace Keyspace.Text.Utf8

private theorem toNat_ofNat {value : Nat} (small : value < 256) :
    (UInt8.ofNat value).toNat = value := by
  simp [Nat.mod_eq_of_lt small]

/-- A continuation octet inside a character that owes more than one. -/
theorem Decoder.step_owing {written : List Char} {owed least greatest gathered bits : Nat}
    (small : bits < 64) (atLeast : least ≤ bits + 0x80) (atMost : bits + 0x80 ≤ greatest) :
    Decoder.step ⟨written, some ⟨owed + 2, least, greatest, gathered⟩⟩ (UInt8.ofNat (bits + 0x80)) =
      ⟨written, some ⟨owed + 1, 0x80, 0xBF, gathered * 64 + bits⟩⟩ := by
  simp only [Decoder.step, toNat_ofNat (show bits + 0x80 < 256 by omega)]
  rw [if_pos ⟨atLeast, atMost⟩, if_neg (by omega)]
  simp

/-- The last continuation octet of a character. -/
theorem Decoder.step_last {written : List Char} {least greatest gathered bits : Nat}
    (small : bits < 64) (atLeast : least ≤ bits + 0x80) (atMost : bits + 0x80 ≤ greatest) :
    Decoder.step ⟨written, some ⟨1, least, greatest, gathered⟩⟩ (UInt8.ofNat (bits + 0x80)) =
      ⟨Char.ofNat (gathered * 64 + bits) :: written, none⟩ := by
  simp only [Decoder.step, toNat_ofNat (show bits + 0x80 < 256 by omega)]
  rw [if_pos ⟨atLeast, atMost⟩, if_pos (Nat.le_refl 1)]
  simp

theorem Decoder.step_begun {written : List Char} {octet : Nat} {pending : Pending}
    (small : octet < 256) (begins : opening octet = .begun pending) :
    Decoder.step ⟨written, none⟩ (UInt8.ofNat octet) = ⟨written, some pending⟩ := by
  simp [Decoder.step, Decoder.start, toNat_ofNat small, begins]

theorem opening_two (high : Nat) (least : 2 ≤ high) (greatest : high < 0x20) :
    opening (high + 0xC0) = .begun ⟨1, 0x80, 0xBF, high⟩ := by
  rw [opening, if_neg (by omega), if_neg (by omega), if_pos (by omega)]
  simp

/-- The octets that begin a character of three; the first and the thirteenth narrow the next one. -/
theorem opening_three (high : Nat) (greatest : high < 0x10) :
    opening (high + 0xE0) = .begun ⟨2, if high = 0 then 0xA0 else 0x80,
      if high = 0xD then 0x9F else 0xBF, high⟩ := by
  rw [opening, if_neg (by omega), if_neg (by omega), if_neg (by omega)]
  by_cases zero : high = 0
  · simp [zero]
  by_cases surrogate : high = 0xD
  · simp [surrogate]
  rw [if_neg (by omega), if_neg (by omega), if_pos (by omega)]
  simp [zero, surrogate]

/-- The octets that begin a character of four; the first and the last narrow the next one. -/
theorem opening_four (high : Nat) (greatest : high ≤ 4) :
    opening (high + 0xF0) = .begun ⟨3, if high = 0 then 0x90 else 0x80,
      if high = 4 then 0x8F else 0xBF, high⟩ := by
  rw [opening, if_neg (by omega), if_neg (by omega), if_neg (by omega), if_neg (by omega),
    if_neg (by omega), if_neg (by omega)]
  by_cases zero : high = 0
  · simp [zero]
  by_cases last : high = 4
  · simp [last]
  rw [if_neg (by omega), if_pos (by omega)]
  simp [zero, last]

/-- A decoder between characters takes the octets of one character as that character. -/
theorem foldl_step_utf8EncodeChar (written : List Char) (character : Char) :
    (String.utf8EncodeChar character).foldl Decoder.step ⟨written, none⟩ =
      ⟨character :: written, none⟩ := by
  obtain ⟨code, isCode⟩ : ∃ code, character.val.toNat = code := ⟨_, rfl⟩
  have valid : code.isValidChar := isCode ▸ character.valid
  have restored : Char.ofNat code = character := isCode ▸ Char.ofNat_toNat character
  simp only [String.utf8EncodeChar, isCode]
  by_cases one : code ≤ 0x7F
  · rw [if_pos one]
    simp only [List.foldl_cons, List.foldl_nil, Decoder.step, Decoder.start,
      toNat_ofNat (show code < 256 by omega), opening, if_pos (show code < 0x80 by omega), restored]
  rw [if_neg one]
  by_cases two : code ≤ 0x7FF
  · rw [if_pos two]
    have begins := opening_two (code / 64 % 0x20) (by omega) (by omega)
    simp only [List.foldl_cons, List.foldl_nil]
    rw [Decoder.step_begun (by omega) begins,
      Decoder.step_last (by omega) (by omega) (by omega)]
    have whole : code / 64 % 0x20 * 64 + code % 0x40 = code := by omega
    rw [whole, restored]
  rw [if_neg two]
  by_cases three : code ≤ 0xFFFF
  · rw [if_pos three]
    have begins := opening_three (code / 4096 % 0x10) (by omega)
    simp only [List.foldl_cons, List.foldl_nil]
    rw [Decoder.step_begun (by omega) begins,
      Decoder.step_owing (by omega) (by split <;> omega) (by split <;> omega),
      Decoder.step_last (by omega) (by omega) (by omega)]
    have whole : (code / 4096 % 0x10 * 64 + code / 64 % 0x40) * 64 + code % 0x40 = code := by omega
    rw [whole, restored]
  · rw [if_neg three]
    have begins := opening_four (code / 262144 % 0x08) (by omega)
    simp only [List.foldl_cons, List.foldl_nil]
    rw [Decoder.step_begun (by omega) begins,
      Decoder.step_owing (by omega) (by split <;> omega) (by split <;> omega),
      Decoder.step_owing (by omega) (by omega) (by omega),
      Decoder.step_last (by omega) (by omega) (by omega)]
    have whole : ((code / 262144 % 0x08 * 64 + code / 4096 % 0x40) * 64 + code / 64 % 0x40) * 64 +
        code % 0x40 = code := by omega
    rw [whole, restored]

/-- A decoder between characters takes the octets of a text as that text. -/
theorem foldl_step_encode (written text : List Char) :
    (encode text).foldl Decoder.step ⟨written, none⟩ = ⟨text.reverse ++ written, none⟩ := by
  induction text generalizing written with
  | nil => rfl
  | cons character rest inductionHypothesis =>
    have first := foldl_step_utf8EncodeChar written character
    simp only [encode, List.flatMap_cons, List.foldl_append, first] at inductionHypothesis ⊢
    simpa using inductionHypothesis (character :: written)

/-- Decoding undoes encoding. -/
theorem decode_encode (text : List Char) : decode (encode text) = text := by
  simp [decode, foldl_step_encode, Decoder.finish]

end Keyspace.Text.Utf8
