import Keyspace.Journal.Line

/-!
# Routing

Loggers form a hierarchy by their names: a point parts the name of a logger from what stands below
it, and the root is above all. Only loggers that have been made count as being above another one.
A record is accepted if its level is at least the first level set on the way up. It goes to the
handlers of its logger and of each logger above, up to one that does not pass it on.
-/

namespace Keyspace.Journal

/-- What a logger hands its records to. -/
inductive Handler where
  /-- Writes nothing. -/
  | silent
  /-- Writes lines, in a context. -/
  | lines (context : Context)
deriving DecidableEq

/-- A logger: a level that may be unset, its handlers, its filters, and whether it passes records
on to the logger above. -/
structure Logger where
  level : Int := Level.notSet
  handlers : List Handler := []
  filters : List Context := []
  passesOn : Bool := true
deriving DecidableEq

/-- All loggers that have been made; one that is not listed has neither a level nor handlers. -/
structure Routing where
  root : Logger
  loggers : List (String × Logger)
deriving DecidableEq

namespace Routing

/-- The loggers before anything is set up. -/
def initial : Routing where
  root := { level := Level.warning }
  loggers := []

/-- A name of the root. -/
def isRoot (name : String) : Bool := name = "" || name = Record.rootName

/-- The logger of a name. -/
def logger (routing : Routing) (name : String) : Logger :=
  if isRoot name then routing.root else (Pairs.find? name routing.loggers).getD {}

/-- Change the logger of a name. -/
def update (routing : Routing) (name : String) (change : Logger → Logger) : Routing :=
  if isRoot name then { routing with root := change routing.root }
  else { routing with loggers := Pairs.insert name (change (routing.logger name)) routing.loggers }

/-- Make the logger of a name, unless it is there. -/
def make (routing : Routing) (name : String) : Routing := routing.update name id

/-- Whether a logger of a name, other than the root, has been made. -/
def isMade (routing : Routing) (name : String) : Bool :=
  !isRoot name && (Pairs.find? name routing.loggers).isSome

/-- The loggers above a name, nearest first, of those that have been made. The name is given last
character first, and what stands before a point is the name of a logger above it. Where no such
logger has been made, the character in front of the point is passed over, so that it is no point
itself. -/
def namesAbove (isMade : String → Bool) : Bool → List Char → List String
  | _, [] => []
  | passedOver, character :: before =>
    if passedOver || character ≠ '.' || before.isEmpty then namesAbove isMade false before
    else if isMade (String.ofList before.reverse) then
      String.ofList before.reverse :: namesAbove isMade false before
    else namesAbove isMade true before

/-- A logger and those above it, the root last. -/
def chain (routing : Routing) (name : String) : List Logger :=
  if isRoot name then [routing.root]
  else routing.logger name ::
    (namesAbove routing.isMade false name.toList.reverse).map routing.logger ++ [routing.root]

/-- The level that counts for a logger: the first one set on the way up. -/
def effectiveLevel (routing : Routing) (name : String) : Int :=
  (((routing.chain name).map Logger.level).find? (· ≠ Level.notSet)).getD Level.notSet

/-- A logger accepts notices of a level; notices without a level are never accepted. -/
def accepts (routing : Routing) (name : String) (level : Int) : Bool :=
  Level.notSet < level && routing.effectiveLevel name ≤ level

/-- The handlers on the way up. -/
def handlersOf : List Logger → List Handler
  | [] => []
  | logger :: above => logger.handlers ++ (if logger.passesOn then handlersOf above else [])

/-- The lines that handlers write of a record. Each adds its context, which the later ones find
there; a record that cannot be written gives no line. -/
def deliver : List Handler → Record → List String
  | [], _ => []
  | .silent :: later, record => deliver later record
  | .lines context :: later, record =>
    let record := context.add record
    (Line.write Line.standardSchema record).toOption.toList ++ deliver later record

/-- The lines that are written of a notice. -/
def log (routing : Routing) (created : Document) (notice : Notice) : Except Fault (List String) := do
  if routing.accepts notice.logger notice.level then
    let record ← Record.ofNotice created notice
    let filtered := (routing.logger notice.logger).filters.foldl (fun record context =>
      context.add record) record
    return deliver (handlersOf (routing.chain notice.logger)) filtered
  else return []

end Routing

end Keyspace.Journal
