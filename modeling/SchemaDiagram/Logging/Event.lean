import SchemaDiagram.Json

/-! # Log events

An event has a level, a name and fields. -/

namespace SchemaDiagram

/-- How important an event is. -/
inductive LogLevel where
  | debug
  | info
  | warning
  | error
  | critical
deriving DecidableEq, Repr

namespace LogLevel

/-- The rank of a level. -/
def rank : LogLevel → Nat
  | debug => 10
  | info => 20
  | warning => 30
  | error => 40
  | critical => 50

/-- The name of a level in records. -/
def name : LogLevel → String
  | debug => "debug"
  | info => "info"
  | warning => "warning"
  | error => "error"
  | critical => "critical"

/-- The name of a level in a configuration. -/
def configName : LogLevel → String
  | debug => "DEBUG"
  | info => "INFO"
  | warning => "WARNING"
  | error => "ERROR"
  | critical => "CRITICAL"

/-- Every level, the least important first. -/
def all : List LogLevel := [debug, info, warning, error, critical]

end LogLevel

/-- Something that was done or met. -/
structure LogEvent where
  /-- How important it is. -/
  level : LogLevel
  /-- What it is. -/
  event : Text
  /-- What it is about. -/
  fields : List (Text × Json)

end SchemaDiagram
