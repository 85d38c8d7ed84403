import Keyspace.Fault

/-!
# Arguments

Callers give documents, and they give texts that no document holds: texts in which one half of a
surrogate pair stands alone. Such a half has no place in UTF-8, so that nothing can be addressed by
such a text, and none can be sent.
-/

namespace Keyspace

/-- One half of a surrogate pair, by its place among all halves. -/
abbrev Surrogate := Fin 2048

/-- The code point of a half. -/
def Surrogate.code (half : Surrogate) : Nat := 0xD800 + half.val

/-- A text in which one half of a surrogate pair stands alone: the first such half, what stands before
it, and what stands behind it, which may be more of them. -/
structure BrokenText where
  before : List Char
  half : Surrogate
  behind : List (Char ⊕ Surrogate)
deriving DecidableEq, Repr

namespace BrokenText

/-- How many halves follow directly on the first one. -/
def more (text : BrokenText) : Nat := (text.behind.takeWhile Sum.isRight).length

/-- Which part of a text cannot be written, when its first half is at a position. -/
def unwritable (position : Nat) (text : BrokenText) : String :=
  if text.more = 0 then
    "character '\\u" ++ String.ofList (Text.hexadecimal 4 text.half.code) ++ "' in position " ++
      Number.integerText position
  else
    "characters in position " ++ Number.integerText position ++ "-" ++
      Number.integerText (position + text.more)

/-- The fault of writing a text in UTF-8, when its first half is at a position. -/
def faultAt (position : Nat) (text : BrokenText) : Fault :=
  ⟨.unicodeEncode, "'utf-8' codec can't encode " ++ text.unwritable position ++
    ": surrogates not allowed"⟩

/-- The fault of writing a text as a whole. -/
def fault (text : BrokenText) : Fault := text.faultAt text.before.length

/-- The fault of writing a text segment by segment, which stops at the first segment with a half. -/
def segmentFault (text : BrokenText) : Fault :=
  text.faultAt (text.before.reverse.takeWhile (· ≠ '/')).length

end BrokenText

/-- What a caller gives. -/
inductive Argument where
  | document (document : Document)
  | broken (text : BrokenText)
deriving DecidableEq

namespace Argument

/-- A text that is whole. -/
@[match_pattern]
abbrev text (text : String) : Argument := .document (.text text)

/-- An integer. -/
@[match_pattern]
abbrev int (value : Int) : Argument := .document (.int value)

/-- Nothing. -/
@[match_pattern]
abbrev null : Argument := .document .null

/-- Some integer in the argument has more digits than can be written. -/
def isOversized : Argument → Bool
  | .document given => given.isOversized
  | .broken _ => false

/-- What is to be sent has to be written in UTF-8. -/
def sendable : Argument → Except Failure Document
  | .document given => .ok given
  | .broken given => .error (.fault given.fault)

/-- What is to address something has to be a text, each segment of which is written in UTF-8. -/
def key : Argument → Except Failure String
  | .document (.text key) => .ok key
  | .document other => .error (.fault (.lacks other "lstrip"))
  | .broken given => .error (.fault given.segmentFault)

@[simp] theorem key_text (key : String) : (Argument.text key).key = .ok key := rfl

@[simp] theorem key_eq_ok_iff {argument : Argument} {key : String} :
    argument.key = .ok key ↔ argument = .text key := by
  rcases argument with (_ | _ | _ | _ | _ | _ | _) | _ <;> simp [Argument.key]

end Argument

end Keyspace
