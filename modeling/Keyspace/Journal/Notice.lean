import Keyspace.Fault

/-!
# Notices

A notice is what is given to a logger to write down: a level, a message that may be a template
with arguments, extra fields, and the fault that is being dealt with.
-/

namespace Keyspace.Journal

namespace Level

/-- The level that lets everything through. -/
def notSet : Int := 0

/-- The level of details. -/
def debug : Int := 10

/-- The level of news. -/
def info : Int := 20

/-- The level of warnings. -/
def warning : Int := 30

/-- The level of errors. -/
def error : Int := 40

/-- The level of errors that end the program. -/
def critical : Int := 50

/-- The name of a level. -/
def name (level : Int) : String :=
  if level = critical then "CRITICAL"
  else if level = error then "ERROR"
  else if level = warning then "WARNING"
  else if level = info then "INFO"
  else if level = debug then "DEBUG"
  else if level = notSet then "NOTSET"
  else "Level " ++ Number.integerText level

/-- The level that a name in upper case means. -/
def ofName? (name : String) : Option Int :=
  if name = "CRITICAL" ∨ name = "FATAL" then some critical
  else if name = "ERROR" then some error
  else if name = "WARNING" ∨ name = "WARN" then some warning
  else if name = "INFO" then some info
  else if name = "DEBUG" then some debug
  else if name = "NOTSET" then some notSet
  else none

end Level

/-- What is given to a logger to write down. -/
structure Notice where
  /-- The name of the logger; the root has the empty name. -/
  logger : String
  level : Int
  message : Document
  arguments : List Document := []
  extras : List (String × Document) := []
  fault : Option Fault := none
deriving DecidableEq

end Keyspace.Journal
