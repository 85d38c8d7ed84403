import Keyspace.Content.MediaType

/-!
# Content

The octets of an answer are read with the codec that its media type names. A media type without
one, or with one that is not known, means UTF-8. Where there are no octets there is no need of a
codec either.
-/

namespace Keyspace.Content

/-- What codecs that are not written out here make of an answer. -/
structure Elsewhere where
  /-- The name of the charset, where it is written in such a codec and is a text of it. -/
  charset : Option String := none
  /-- The octets of the answer, where such a codec is to read them and they are a text of it. -/
  text : String := ""
  /-- Why they are none. -/
  fault : Option DecodingFault := none
deriving DecidableEq, Repr

/-- What such a codec makes of the octets of an answer. -/
def Elsewhere.reading (elsewhere : Elsewhere) : Except DecodingFault String :=
  match elsewhere.fault with
  | none => .ok elsewhere.text
  | some fault => .error fault

/-- The codec of an answer. -/
def codec (mediaType : Option String) (elsewhere : Elsewhere) : Except DecodingFault Codec :=
  match mediaType with
  | none => .ok (.charset .utf8)
  | some mediaType => do
    match ← charsetName mediaType elsewhere.charset with
    | none => return .charset .utf8
    | some name => do
      checkName name
      return (Codec.ofName? name).getD (.charset .utf8)

/-- What becomes of the octets of an answer: a text, or a fault in its place. From a codec that turns
octets into octets there is neither. -/
def decode? (mediaType : Option String) (elsewhere : Elsewhere) (octets : List UInt8) :
    Option (Except DecodingFault String) :=
  if octets.isEmpty then some (.ok "")
  else match codec mediaType elsewhere with
    | .error fault => some (.error fault)
    | .ok (.charset charset) => some (.ok (String.ofList (charset.decode octets)))
    | .ok .octets => none
    | .ok (.refusing fault) => some (.error fault)
    | .ok .foreign => some elsewhere.reading

end Keyspace.Content
