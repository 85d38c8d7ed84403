import Keyspace.Number.Shortest

/-!
# URLs

A URL is kept by its components, each already in the form in which it is written. A component that
has a mark of its own (the query and the fragment) may be present and empty.
-/

namespace Keyspace

/-- A URL by its components. -/
structure Url where
  scheme : List Char
  userinfo : List Char
  /-- The host; an IPv6 address stands here without its brackets. -/
  host : List Char
  port : Option Int
  path : List Char
  query : Option (List Char)
  fragment : Option (List Char)
deriving DecidableEq, Repr

namespace Url

/-- A component with the mark in front of it, or nothing. -/
def marked (mark : Char) : Option (List Char) → List Char
  | none => []
  | some component => mark :: component

/-- The host with brackets around an IPv6 address. -/
def hostText (url : Url) : List Char :=
  if url.host.contains ':' then '[' :: url.host ++ [']'] else url.host

/-- The authority: user information, host and port. -/
def authority (url : Url) : List Char :=
  (if url.userinfo.isEmpty then [] else url.userinfo ++ ['@']) ++ url.hostText ++
    marked ':' (url.port.map fun port => (Number.integerText port).toList)

/-- The characters of a URL. -/
def characters (url : Url) : List Char :=
  (if url.scheme.isEmpty then [] else url.scheme ++ [':']) ++
    (if url.authority.isEmpty then [] else '/' :: '/' :: url.authority) ++
    url.path ++ marked '?' url.query ++ marked '#' url.fragment

/-- The text of a URL. -/
def text (url : Url) : String := String.ofList url.characters

/-- What a request asks its server for: the path, which is never empty, and the query. -/
def target (url : Url) : List Char :=
  (if url.path.isEmpty then ['/'] else url.path) ++ marked '?' url.query

end Url

end Keyspace
