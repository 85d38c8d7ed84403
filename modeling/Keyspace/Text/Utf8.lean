/-!
# UTF-8

Texts travel as the octets of UTF-8. Encoding is total. Decoding never fails either: octets that
cannot belong to a character are replaced by U+FFFD, one for each maximal beginning of a character
that breaks off, and the octet at which it breaks off starts anew.
-/

namespace Keyspace.Text.Utf8

/-- The octets of a text. -/
def encode (text : List Char) : List UInt8 :=
  text.flatMap String.utf8EncodeChar

/-- The mark put in the place of octets that are no text. -/
def replacement : Char := Char.ofNat 0xFFFD

/-- Where decoding stands inside a character: how many octets are still owed, the least and the
greatest value of the next one, and the bits gathered so far. -/
structure Pending where
  owed : Nat
  least : Nat
  greatest : Nat
  gathered : Nat

/-- What an octet means between characters. -/
inductive Opening where
  /-- The octet is a character of its own. -/
  | whole (character : Char)
  /-- The octet begins a character of several octets. -/
  | begun (pending : Pending)
  /-- The octet begins no character. -/
  | none

/-- The meaning of an octet between characters. -/
def opening (octet : Nat) : Opening :=
  if octet < 0x80 then .whole (Char.ofNat octet)
  else if octet < 0xC2 then .none
  else if octet < 0xE0 then .begun ⟨1, 0x80, 0xBF, octet - 0xC0⟩
  else if octet = 0xE0 then .begun ⟨2, 0xA0, 0xBF, 0⟩
  else if octet = 0xED then .begun ⟨2, 0x80, 0x9F, 0xD⟩
  else if octet < 0xF0 then .begun ⟨2, 0x80, 0xBF, octet - 0xE0⟩
  else if octet = 0xF0 then .begun ⟨3, 0x90, 0xBF, 0⟩
  else if octet < 0xF4 then .begun ⟨3, 0x80, 0xBF, octet - 0xF0⟩
  else if octet = 0xF4 then .begun ⟨3, 0x80, 0x8F, 4⟩
  else .none

/-- The state of a decoder: the text so far, last character first, and the character begun. -/
structure Decoder where
  written : List Char
  pending : Option Pending

/-- Take an octet between characters. -/
def Decoder.start (written : List Char) (octet : Nat) : Decoder :=
  match opening octet with
  | .whole character => ⟨character :: written, none⟩
  | .begun pending => ⟨written, some pending⟩
  | .none => ⟨replacement :: written, none⟩

/-- Take one octet. -/
def Decoder.step (decoder : Decoder) (octet : UInt8) : Decoder :=
  match decoder.pending with
  | none => Decoder.start decoder.written octet.toNat
  | some pending =>
    if pending.least ≤ octet.toNat ∧ octet.toNat ≤ pending.greatest then
      let gathered := pending.gathered * 64 + (octet.toNat - 0x80)
      if pending.owed ≤ 1 then ⟨Char.ofNat gathered :: decoder.written, none⟩
      else ⟨decoder.written, some ⟨pending.owed - 1, 0x80, 0xBF, gathered⟩⟩
    else Decoder.start (replacement :: decoder.written) octet.toNat

/-- The text of a decoder at the end of its octets. -/
def Decoder.finish (decoder : Decoder) : List Char :=
  match decoder.pending with
  | none => decoder.written.reverse
  | some _ => (replacement :: decoder.written).reverse

/-- The text of octets, with replacements where they are not UTF-8. -/
def decode (octets : List UInt8) : List Char :=
  (octets.foldl Decoder.step ⟨[], none⟩).finish

end Keyspace.Text.Utf8
