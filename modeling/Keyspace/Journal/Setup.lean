import Keyspace.Event
import Keyspace.Journal.Routing
import Keyspace.Settings

/-!
# Setting up the journal

Setting up gives the root, the loggers of the transport, the logger of this library and any
further ones a handler that writes lines, and a level. Levels are chosen by name, in any case; any
other text gives a default, except for two names that mean something else and are refused when the
level is to be set.
-/

namespace Keyspace.Journal

/-- What the journal is set up with. -/
structure Setup where
  level : Document := .text "INFO"
  transportLevel : Document := .null
  applicationName : Document := .null
  furtherLoggers : Document := .null
deriving DecidableEq

namespace Setup

/-- The layout of lines that one of the refused names stands for. -/
def plainLayout : String := "%(levelname)s:%(name)s:%(message)s"

/-- The fault of a level that is a layout. -/
def unknownLevel : Fault := ⟨.value, "Unknown level: " ++ Text.quoted plainLayout⟩

/-- The fault of a level that is a table of layouts. -/
def notALevel : Fault := ⟨.type, "Level not an integer or a valid string: " ++
  "\x7b'%': (<class 'logging.PercentStyle'>, '%(levelname)s:%(name)s:%(message)s'), " ++
  "'\x7b': (<class 'logging.StrFormatStyle'>, '\x7blevelname\x7d:\x7bname\x7d:\x7bmessage\x7d'), " ++
  "'$': (<class 'logging.StringTemplateStyle'>, " ++
  "'$\x7blevelname\x7d:$\x7bname\x7d:$\x7bmessage\x7d')\x7d"⟩

/-- A level as it is chosen: a level, or the fault that setting it gives. -/
abbrev Choice := Except Fault Int

/-- Choose a level by name. -/
def choose (default : Int) (name : String) : Choice :=
  let name := Text.upper name
  match Level.ofName? name with
  | some level => .ok level
  | none =>
    if name = "BASIC_FORMAT" then .error unknownLevel
    else if name = "_STYLES" then .error notALevel
    else .ok default

/-- Choose a level by a document. -/
def chooseBy (default : Int) (document : Document) : Except Fault Choice :=
  if document.isOversized then .error .oversizedInteger
  else .ok (choose default document.shown)

/-- A document, or another one in the place of one that counts as false. -/
def orElse (document other : Document) : Document :=
  if document.isTruthy then document else other

/-- The context that is set up. -/
def context (environment : Environment) (setup : Setup) : Context where
  service := orElse setup.applicationName (.text (Settings.applicationName environment))
  version := .text (Settings.applicationVersion environment)
  environment := .text (Settings.environmentName environment)

/-- Set a logger up, once its level is chosen. -/
def configure (context : Context) (level : Int) (logger : Logger) : Logger :=
  { logger with level, handlers := [.lines context], filters := [context] }

/-- Set up a logger that does not pass records on. -/
def configureApart (context : Context) (level : Int) (logger : Logger) : Logger :=
  { configure context level logger with passesOn := false }

/-- The name of a logger in a document; whatever counts as false means the root. -/
def nameOf (document : Document) : Except Fault String :=
  if document.isTruthy then
    match document with
    | .text name => .ok name
    | _ => .error ⟨.type, "A logger name must be a string"⟩
  else .ok ""

/-- The names of further loggers in a document. -/
def furtherNames (document : Document) : Except Fault (List Document) :=
  if document.isTruthy then
    match document.items? with
    | some names => .ok names
    | none => .error (.notIterable document)
  else .ok []

/-- The logger of connections. -/
def connectionLogger : String := "httpcore"

/-- Set up loggers one after the other, up to one that is refused. -/
def configureAll (context : Context) : List (Document × Choice) → Routing →
    Except Fault Unit × Routing
  | [], routing => (.ok (), routing)
  | (document, choice) :: later, routing =>
    match nameOf document, choice with
    | .error fault, _ => (.error fault, routing)
    | .ok _, .error fault => (.error fault, routing)
    | .ok name, .ok level =>
      configureAll context later (routing.update name (configureApart context level))

/-- The notice that the journal is set up. -/
def notice (level transportLevel : Int) : Notice where
  logger := Event.libraryLogger
  level := Level.info
  message := .text "logging_configured"
  extras := [Event.action "application" "logging_started",
    Event.field "logging" [("level", .text (Level.name level)),
      ("http_level", .text (Level.name transportLevel))]]

/-- Set up all loggers below the root. -/
def configureBelow (context : Context) (setup : Setup) (level transportLevel : Choice)
    (routing : Routing) : Except Fault Unit × Routing :=
  match furtherNames setup.furtherLoggers with
  | .error fault => (.error fault, routing)
  | .ok further =>
    configureAll context ([(.text Event.transportLogger, transportLevel),
      (.text connectionLogger, transportLevel), (.text Event.libraryLogger, level)] ++
      further.map fun name => (name, level)) routing

/-- The levels that are chosen, for the library and for its transport. -/
def levels (setup : Setup) : Except Fault (Choice × Choice) := do
  let level ← chooseBy Level.info setup.level
  let transportLevel ←
    chooseBy Level.warning (orElse setup.transportLevel (.text "WARNING"))
  return (level, transportLevel)

/-- Set the journal up; the lines that this writes, and the loggers after it. -/
def run (environment : Environment) (created : Document) (setup : Setup) (routing : Routing) :
    Except Fault (List String) × Routing :=
  match setup.levels with
  | .error fault => (.error fault, routing)
  | .ok (.error fault, _) => (.error fault, routing)
  | .ok (.ok level, choice) =>
    let context := setup.context environment
    let rooted := routing.update "" (configure context level)
    match configureBelow context setup (.ok level) choice rooted with
    | (.error fault, after) => (.error fault, after)
    | (.ok (), after) =>
      (after.log created (notice level (choice.toOption.getD Level.warning)), after)

end Setup

end Keyspace.Journal
