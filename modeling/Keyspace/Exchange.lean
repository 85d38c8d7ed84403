import Keyspace.Content
import Keyspace.Fault
import Keyspace.Form
import Keyspace.Timeout
import Keyspace.Url.Basic

/-!
# Requests and replies

An exchange is one request and the reply to it: an answer with a status and a body, or a fault in
its place. What replies is a server, a function of its own state; the simplest one is a script of
replies, which is used up from the front.
-/

namespace Keyspace

/-- The methods of requests. -/
inductive Method where
  | get
  | put
  | delete
deriving DecidableEq, Repr

/-- The name of a method. -/
def Method.name : Method → String
  | .get => "GET"
  | .put => "PUT"
  | .delete => "DELETE"

/-- A request as it is sent. -/
structure Request where
  method : Method
  url : Url
  /-- The form that the request carries, in writing. -/
  form : Option String
  timeout : Timeout
deriving DecidableEq, Repr

namespace Request

/-- The body of a request, empty where there is no form. -/
def body (request : Request) : String := request.form.getD ""

/-- The media type of the body. -/
def contentType (request : Request) : Option String := request.form.map fun _ => Form.mediaType

/-- What the request asks its server for. -/
def target (request : Request) : String := String.ofList request.url.target

end Request

/-- An answer to a request. -/
structure Response where
  status : Int
  body : List UInt8
  contentType : Option String := none
  elsewhere : Content.Elsewhere := {}
deriving DecidableEq, Repr

namespace Response

/-- What becomes of the body of an answer: a text, a fault in its place, or neither. -/
def decoded? (response : Response) : Option (Except Content.DecodingFault String) :=
  Content.decode? response.contentType response.elsewhere response.body

/-- What becomes of the body of an answer, an empty text where it is neither a text nor a fault. -/
def decoded (response : Response) : Except Content.DecodingFault String :=
  response.decoded?.getD (.ok "")

/-- The text of an answer, if its codec gives any. -/
def text? (response : Response) : Option String := response.decoded?.bind Except.toOption

/-- The text of an answer, empty where there is none. -/
def text (response : Response) : String := response.text?.getD ""

end Response

/-- What comes back for a request: an answer, or a fault in its place. -/
abbrev Reply := Except Fault Response

/-- A server replies to a request and goes on to another state. -/
abbrev Server (State : Type) := State → Request → Reply × State

/-- Replies in the order in which they are given. -/
abbrev Script := List Reply

namespace Script

/-- The fault of a script that has run out. -/
def exhausted : Fault := ⟨.connect, "no scripted response"⟩

/-- The server that replies as a script says. -/
def serve : Server Script
  | [], _ => (.error exhausted, [])
  | reply :: later, _ => (reply, later)

end Script

end Keyspace
