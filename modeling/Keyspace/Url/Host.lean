import Keyspace.Text.Fields
import Keyspace.Text.Hexadecimal
import Keyspace.Text.Percent

/-!
# Hosts

A host in brackets is an IPv6 address and is kept as written. A host made of four runs of digits
with points between them must be an IPv4 address. Any other host is a name in ASCII, taken in lower
case, with the characters escaped that a name cannot show. Names in other characters would have to be
encoded for the domain name system first; they are left out here, and count as refused.
-/

namespace Keyspace.Url

/-- One of the four numbers of an IPv4 address: up to three digits, at most 255, and no zero in
front of another digit. -/
def isOctet (text : List Char) : Bool :=
  !text.isEmpty && text.all Char.isDigit && text.length ≤ 3 &&
    (text = ['0'] || text.head? ≠ some '0') && Nat.ofDigitChars 10 text 0 ≤ 255

/-- Four octets parted by points. -/
def isIPv4 (text : List Char) : Bool :=
  let octets := Text.fields '.' text
  octets.length = 4 && octets.all isOctet

/-- One group of an IPv6 address: one to four hexadecimal digits. -/
def isHextet (text : List Char) : Bool :=
  !text.isEmpty && text.length ≤ 4 && text.all fun digit => (Text.hexValue? digit).isSome

/-- An IPv6 address may end in a percent sign and the name of a zone, which has no percent sign. -/
def withoutZone? (text : List Char) : Option (List Char) :=
  match text.dropWhile (· ≠ '%') with
  | [] => some text
  | _ :: zone => if zone.isEmpty || zone.contains '%' then none else some (text.takeWhile (· ≠ '%'))

/-- The groups of an IPv6 address; an IPv4 address at the end stands for two groups. -/
def groups? (text : List Char) : Option (List (List Char)) :=
  let parts := Text.fields ':' text
  if parts.length < 3 then none
  else
    let last := parts.getLast?.getD []
    if last.contains '.' then
      if isIPv4 last then some (parts.dropLast ++ [['0'], ['0']]) else none
    else some parts

/-- Groups that stand before or after a gap: none if the outer end is empty and nothing else is
there, and otherwise all of them hextets. -/
def isHalf (outerEnd : Option (List Char)) (half : List (List Char)) : Option Nat :=
  if outerEnd = some [] then if half.length = 1 then some 0 else none
  else if half.all isHextet then some half.length else none

/-- The groups of a whole address: eight hextets, or fewer with one gap in between. -/
def areGroups (parts : List (List Char)) : Bool :=
  let inner := parts.dropLast.drop 1
  if 9 < parts.length then false
  else if inner.contains [] then
    let before := (parts.take 1) ++ inner.takeWhile (· ≠ [])
    let after := (inner.dropWhile (· ≠ [])).drop 1 ++ parts.drop (parts.length - 1)
    if ((inner.dropWhile (· ≠ [])).drop 1).contains [] then false
    else match isHalf before.head? before, isHalf after.getLast? after with
      | some high, some low => high + low < 8
      | _, _ => false
  else parts.length = 8 && parts.all isHextet

/-- The text of an IPv6 address, without brackets. -/
def isIPv6 (text : List Char) : Bool :=
  !text.contains '/' && match withoutZone? text with
    | some address => match groups? address with
      | some parts => areGroups parts
      | none => false
    | none => false

/-- Four runs of digits, parted by points. -/
def resemblesIPv4 (text : List Char) : Bool :=
  let runs := Text.fields '.' text
  runs.length = 4 && runs.all fun run => !run.isEmpty && run.all Char.isDigit

/-- A character that stands for itself in the name of a host. -/
def isNameSafe : Char → Bool :=
  Text.Percent.isVisibleExcept ['#', '/', ':', '<', '>', '?', '@', '[', ']', '^']

/-- A host in brackets, without them. -/
def bracketed? : List Char → Option (List Char)
  | '[' :: rest =>
    if rest.getLast? = some ']' then some rest.dropLast else none
  | _ => none

/-- Why a host is refused. -/
inductive HostFault where
  | notIPv4
  | notIPv6
  | notAscii
deriving DecidableEq, Repr

/-- The host as a request shows it. -/
def normalizeHost (host : List Char) : Except HostFault (List Char) :=
  if host.isEmpty then .ok []
  else if resemblesIPv4 host then if isIPv4 host then .ok host else .error .notIPv4
  else match bracketed? host with
    | some address => if isIPv6 address then .ok address else .error .notIPv6
    | none =>
      if host.all fun character => character.toNat < 0x80 then
        .ok (Text.Percent.encode isNameSafe (host.map Char.toLower))
      else .error .notAscii

end Keyspace.Url
