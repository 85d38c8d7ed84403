import Keyspace.Event

/-!
# Transcripts

Operations are run against a server, and what they do is kept in a transcript: the requests that
were sent, the events, and the state that the server is in.
-/

namespace Keyspace

/-- What has been done so far, and the server that it was done with. -/
structure Transcript (State : Type) where
  server : State
  requests : List Request := []
  events : List Event := []

namespace Transcript

variable {State : Type}

/-- Take down an event. -/
def note (event : Event) (transcript : Transcript State) : Transcript State :=
  { transcript with events := transcript.events ++ [event] }

/-- Send a request and wait for the reply. An answer, unlike a fault, is an event. -/
def exchange (serve : Server State) (request : Request) (transcript : Transcript State) :
    Reply × Transcript State :=
  let (reply, server) := serve transcript.server request
  let sent := { transcript with server, requests := transcript.requests ++ [request] }
  match reply with
  | .ok response =>
    (reply, sent.note (.answered request.method request.url.text response.status))
  | .error _ => (reply, sent)

end Transcript

end Keyspace
