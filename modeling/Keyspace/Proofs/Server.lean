import Keyspace.Json.Reader
import Keyspace.Proofs.Accessor.Address
import Keyspace.Proofs.Form

/-!
# Servers that keep a keyspace

A server keeps a keyspace when it finds the key of a request in the path, takes values from forms,
and answers with what it keeps. `ServesKeyspace` says what can be relied on, for every state of the
server: statuses, and the node that the body of an answer denotes, however the body is written.
-/

namespace Keyspace

/-- The values of the keys of a keyspace. -/
abbrev Contents := String → Option String

namespace Contents

/-- No key has a value. -/
def empty : Contents := fun _ => none

/-- Give a key a value, or none. -/
def put (key : String) (value : Option String) (contents : Contents) : Contents := fun other =>
  if other = key then value else contents other

end Contents

/-- The key that a request is about: what follows in its path the names of the keyspace, each
segment with its escapes read. -/
def Request.key? (request : Request) : Option String :=
  (Text.after? Accessor.keyspacePath request.url.path).map fun rest =>
    String.ofList (Text.unfields '/' ((Text.fields '/' rest).map Text.Percent.decode))

/-- An answer tells of a node: its body denotes an object with the node in it. -/
structure Response.TellsNode (response : Response) (status : Int)
    (members node : List (String × Document)) : Prop where
  status : response.status = status
  body : Json.read response.text = .ok (.object members)
  node : Pairs.find? "node" members = some (.object node)

/-- A server keeps a keyspace, whose contents can be seen in its state. -/
structure ServesKeyspace {State : Type} (serve : Server State) (view : State → Contents) :
    Prop where
  /-- A key with a value is told with it; without one it is not found, or is a directory. -/
  get : ∀ state (request : Request) key, request.method = .get → request.key? = some key →
    ∃ response after, serve state request = (.ok response, after) ∧ view after = view state ∧
      match view state key with
      | some value => ∃ members node, response.TellsNode 200 members node ∧
          Pairs.find? "value" node = some (.text value)
      | none => response.status = 404 ∨ ∃ members node, response.TellsNode 200 members node ∧
          Pairs.find? "value" node = none
  /-- A value from a form is kept, and told as that of the key; if the key had one before, the node
  is told as it was. The form may hold a lifetime, which must be an integer. -/
  put : ∀ state (request : Request) key value, request.method = .put → request.key? = some key →
    Pairs.find? "value" (Form.read request.body) = some value →
    (∀ lifetime, Pairs.find? "ttl" (Form.read request.body) = some lifetime →
      (Number.readInteger? lifetime).isSome) →
    ∃ response after, serve state request = (.ok response, after) ∧
      view after = (view state).put key (some value) ∧
      ∃ members node, Pairs.find? "value" node = some (.text value) ∧
        match view state key with
        | some _ => response.TellsNode 200 members node ∧
            ∃ before, Pairs.find? "prevNode" members = some (.object before)
        | none => response.TellsNode 201 members node ∧ Pairs.find? "prevNode" members = none
  /-- A key with a value loses it, and the node is told as it was; another is not found. -/
  delete : ∀ state (request : Request) key, request.method = .delete → request.key? = some key →
    ∃ response after, serve state request = (.ok response, after) ∧
      view after = (view state).put key none ∧
      match view state key with
      | some _ => ∃ members node, response.TellsNode 200 members node ∧
          ∃ before, Pairs.find? "prevNode" members = some (.object before)
      | none => response.status = 404

namespace Accessor

/-- A key without slashes in front, as servers know it. -/
def plainKey (key : String) : String := String.ofList (key.toList.dropWhile (· = '/'))

/-- The path of a key that has no dot segments. -/
theorem after?_pathTo_keyPlace {key : String}
    (names : ∀ segment ∈ keySegments key, Url.isDotSegment segment = false) :
    Text.after? keyspacePath (pathTo (keyPlace key)) = some (keyPath key) := by
  have whole : pathTo (keyPlace key) = keyspacePath ++ keyPath key := by
    rw [keyPlace, Url.walk_of_names names]
    exact writtenPath_eq key
  rw [whole, Text.after?_append]

/-- A request for a key without dot segments is understood as one about that key, whatever it
holds, but for slashes in front. -/
theorem key?_of_path {key : String} {request : Request}
    (names : ∀ segment ∈ keySegments key, Url.isDotSegment segment = false)
    (path : request.url.path = pathTo (keyPlace key)) : request.key? = some (plainKey key) := by
  rw [Request.key?, path, after?_pathTo_keyPlace names, Option.map_some, fields_keyPath,
    map_decode_spell, keySegments, Text.unfields_fields]
  rfl

end Accessor

end Keyspace
