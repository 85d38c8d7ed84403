import Keyspace.Accessor

/-!
# Sessions

An accessor works through a client, which it may have made itself or been given by a caller. It
closes the client only in the first case. A client that has been closed stays closed and sends
nothing.
-/

namespace Keyspace

/-- An accessor together with its client. -/
structure Session where
  accessor : Accessor
  /-- The accessor made the client itself. -/
  ownsClient : Bool
  isOpen : Bool := true
deriving DecidableEq, Repr

namespace Session

variable {State : Type}

/-- Close the client, whoever made it. -/
def closeClient (session : Session) : Session := { session with isOpen := false }

/-- Close the accessor, and its client if the accessor made it. -/
def close (session : Session) : Session :=
  if session.ownsClient then session.closeClient else session

/-- Enter the accessor as a context: the accessor itself is what is entered. -/
def enter (session : Session) : Session := session

/-- Leave the context, which closes the accessor. -/
def leave (session : Session) : Session := session.close

/-- Perform an operation. -/
def perform (serve : Server State) (session : Session) (call : Call)
    (transcript : Transcript State) : Except Failure (Outcome String) × Transcript State :=
  session.accessor.perform serve session.isOpen call transcript

/-- Ask for the version of the server. -/
def version (serve : Server State) (session : Session) (timeout : Option TimeoutSetting)
    (transcript : Transcript State) : Except Failure String × Transcript State :=
  session.accessor.version serve session.isOpen timeout transcript

end Session

end Keyspace
