import Keyspace.Number.Reading
import Keyspace.Text.Quoted
import Keyspace.Url.Basic
import Keyspace.Url.Host
import Keyspace.Url.Path

/-!
# Reading URLs

A text is split into its components as RFC 3986 splits it, and each component is brought into the
form in which requests show it. Changing the query reads the URL a second time, from its written
components.
-/

namespace Keyspace.Url

/-- Why a text is no URL. -/
inductive UrlFault where
  | tooLong
  | componentTooLong (name : String)
  | controlCharacter (character : Char) (position : Nat)
  | host (written : List Char) (fault : HostFault)
  | port (written : List Char)
  | pathNotRooted
  | pathTwoSlashes
  | pathColon
deriving DecidableEq, Repr

/-- The message of a fault. -/
def UrlFault.message : UrlFault → String
  | .tooLong => "URL too long"
  | .componentTooLong name => "URL component '" ++ name ++ "' too long"
  | .controlCharacter character position =>
    "Invalid non-printable ASCII character in URL, " ++ Text.quoted (String.ofList [character]) ++
      " at position " ++ Number.integerText position ++ "."
  | .host written .notIPv4 => "Invalid IPv4 address: " ++ Text.quoted (String.ofList written)
  | .host written .notIPv6 => "Invalid IPv6 address: " ++ Text.quoted (String.ofList written)
  | .host written .notAscii => "Invalid IDNA hostname: " ++ Text.quoted (String.ofList written)
  | .port written => "Invalid port: " ++ Text.quoted (String.ofList written)
  | .pathNotRooted => "For absolute URLs, path must be empty or begin with '/'"
  | .pathTwoSlashes => "Relative URLs cannot have a path starting with '//'"
  | .pathColon => "Relative URLs cannot have a path starting with ':'"

/-- The components of a URL as they are written. -/
structure Written where
  scheme : List Char
  authority : List Char
  path : List Char
  query : Option (List Char)
  fragment : Option (List Char)
deriving DecidableEq, Repr

/-- The parts of an authority as they are written. -/
structure WrittenAuthority where
  userinfo : List Char
  host : List Char
  port : List Char
deriving DecidableEq, Repr

/-- No URL, and no component of one, may have more characters than this. -/
def lengthLimit : Nat := 65536

/-- A character of a scheme after its first letter. -/
def isSchemeCharacter (character : Char) : Bool :=
  character.isAlphanum || character = '+' || character = '.' || character = '-'

/-- A scheme up to its colon, and the rest; a colon at the front ends an empty scheme. -/
def takeScheme (text : List Char) : List Char × List Char :=
  let name := text.takeWhile isSchemeCharacter
  match text.dropWhile isSchemeCharacter with
  | ':' :: rest => if name.head?.all Char.isAlpha then (name, rest) else ([], text)
  | _ => ([], text)

/-- A character of an authority. -/
def isAuthorityCharacter (character : Char) : Bool :=
  character ≠ '/' && character ≠ '?' && character ≠ '#'

/-- An authority after two slashes, and the rest. -/
def takeAuthority : List Char → List Char × List Char
  | '/' :: '/' :: rest =>
    (rest.takeWhile isAuthorityCharacter, rest.dropWhile isAuthorityCharacter)
  | text => ([], text)

/-- A component behind its mark, up to the characters that end it, and the rest. -/
def takeMarked (mark : Char) (inside : Char → Bool) :
    List Char → Option (List Char) × List Char
  | [] => (none, [])
  | first :: rest =>
    if first = mark then (some (rest.takeWhile inside), rest.dropWhile inside)
    else (none, first :: rest)

/-- Split a text into components. -/
def split (text : List Char) : Written :=
  let (scheme, afterScheme) := takeScheme text
  let (authority, afterAuthority) := takeAuthority afterScheme
  let isPath (character : Char) : Bool := character ≠ '?' && character ≠ '#'
  let path := afterAuthority.takeWhile isPath
  let (query, afterQuery) := takeMarked '?' (· ≠ '#') (afterAuthority.dropWhile isPath)
  let (fragment, _) := takeMarked '#' (fun _ => true) afterQuery
  { scheme, authority, path, query, fragment }

/-- A host in brackets up to the last closing one, or up to a colon, and the port after it. -/
def splitHost (text : List Char) : List Char × List Char :=
  let plain := (text.takeWhile (· ≠ ':'), text.dropWhile (· ≠ ':'))
  let (host, rest) := match text with
    | '[' :: _ => match Text.splitLast? ']' text with
      | some (inside, after) => (inside ++ [']'], after)
      | none => plain
    | _ => plain
  match rest with
  | ':' :: port => (host, port)
  | port => (host, port)

/-- Split an authority: the user information ends at the last at sign. -/
def splitAuthority (authority : List Char) : WrittenAuthority :=
  let (userinfo, rest) := (Text.splitLast? '@' authority).getD ([], authority)
  let (host, port) := splitHost rest
  { userinfo, host, port }

/-- The port that a scheme implies. -/
def impliedPort? (scheme : List Char) : Option Int :=
  if scheme = ['h', 't', 't', 'p'] then some 80
  else if scheme = ['h', 't', 't', 'p', 's'] then some 443
  else if scheme = ['f', 't', 'p'] then some 21
  else if scheme = ['w', 's'] then some 80
  else if scheme = ['w', 's', 's'] then some 443
  else none

/-- The port of a URL; one that the scheme, as written, implies is left out. -/
def normalizePort (scheme port : List Char) : Except UrlFault (Option Int) :=
  if port.isEmpty then .ok none
  else match Number.readInteger? (String.ofList port) with
    | none => .error (.port port)
    | some number => .ok (if impliedPort? scheme = some number then none else some number)

/-- Characters that stand for themselves in user information. -/
def isUserinfoSafe : Char → Bool :=
  Text.Percent.isVisibleExcept ['"', '#', '<', '>', '?', Char.ofNat 0x60, '\x7b', '\x7d', '/',
    ';', '=', '@', '[', ']', '\\', '^', '|']

/-- Characters that stand for themselves in a path. -/
def isPathSafe : Char → Bool :=
  Text.Percent.isVisibleExcept ['"', '#', '<', '>', '?', Char.ofNat 0x60, '\x7b', '\x7d']

/-- Characters that stand for themselves in a query. -/
def isQuerySafe : Char → Bool :=
  Text.Percent.isVisibleExcept ['"', '#', '<', '>']

/-- Characters that stand for themselves in a fragment. -/
def isFragmentSafe : Char → Bool :=
  Text.Percent.isVisibleExcept ['"', '<', '>', Char.ofNat 0x60]

/-- Check a path against what stands before it. -/
def checkPath (hasScheme hasAuthority : Bool) (path : List Char) : Except UrlFault Unit :=
  if hasAuthority && !path.isEmpty && path.head? ≠ some '/' then .error .pathNotRooted
  else if !hasScheme && !hasAuthority then
    if path.take 2 = ['/', '/'] then .error .pathTwoSlashes
    else if path.head? = some ':' then .error .pathColon
    else .ok ()
  else .ok ()

/-- Bring written components into the form in which requests show them. -/
def ofWritten (written : Written) : Except UrlFault Url := do
  let parts := splitAuthority written.authority
  let scheme := written.scheme.map Char.toLower
  let userinfo := Text.Percent.encode isUserinfoSafe parts.userinfo
  let host ← (normalizeHost parts.host).mapError (UrlFault.host parts.host)
  let port ← normalizePort written.scheme parts.port
  let hasScheme := !scheme.isEmpty
  let hasAuthority := !userinfo.isEmpty || !host.isEmpty || port.isSome
  checkPath hasScheme hasAuthority written.path
  let path := if hasScheme || hasAuthority then resolvePath written.path else written.path
  return {
    scheme, userinfo, host, port
    path := Text.Percent.encode isPathSafe path
    query := written.query.map (Text.Percent.encode isQuerySafe)
    fragment := written.fragment.map (Text.Percent.encode isFragmentSafe) }

/-- An ASCII control character. -/
def isControl (character : Char) : Bool :=
  character.toNat < 0x20 || character.toNat = 0x7F

/-- Refuse texts that are too long or hold a control character. -/
def checkText (text : List Char) : Except UrlFault Unit :=
  if lengthLimit < text.length then .error .tooLong
  else match text.find? isControl with
    | some character =>
      .error (.controlCharacter character (text.takeWhile fun other => !isControl other).length)
    | none => .ok ()

/-- Read a URL. -/
def read (text : List Char) : Except UrlFault Url := do
  checkText text
  ofWritten (split text)

/-- The components of a URL with another query, as they are written. -/
def writtenWith (query : List Char) (url : Url) : Written :=
  { scheme := url.scheme, authority := url.authority, path := url.path, query := some query,
    fragment := url.fragment }

/-- The names of components with what is written in them, in the order in which they are checked. -/
def Written.components (written : Written) : List (String × List Char) :=
  [("scheme", written.scheme), ("authority", written.authority), ("path", written.path),
   ("query", written.query.getD []), ("fragment", written.fragment.getD [])]

/-- Replace the query; the URL is read again from its components, of which none may be too long. -/
def withQuery (query : List Char) (url : Url) : Except UrlFault Url :=
  let written := writtenWith query url
  match written.components.find? fun (_, component) => lengthLimit < component.length with
  | some (name, _) => .error (.componentTooLong name)
  | none => ofWritten written

end Keyspace.Url
