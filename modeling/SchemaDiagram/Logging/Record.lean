import SchemaDiagram.Config.Basic
import SchemaDiagram.Text.UpperCase

/-! # Log records

The log has outputs, each with a least level of its own or that of the whole log. A record is an
event with its fields, the name of its logger, and the drawing that is under way; a field of the
event stands above the others of its name. Some names cannot be those of fields, and some fields
are not written. Outputs with the same destination share what they write. While the console
belongs to some work, only files are written.

* **`LoggingConfig.leastRank`** — the least rank of the whole log.
* **`LogOutput.accepts`** — whether an output writes an event.
* **`LogEvent.fault?`** — the field that keeps an event from being logged.
* **`LogContext`**, **`LogContext.record`** — what a record holds.
* **`LogBook`** — what has been written to each destination. -/

namespace SchemaDiagram

/-! ## Which events are written -/

/-- The ranks of all level names. -/
def namedRanks : List (Text × Nat) :=
  LogLevel.all.map (fun l => (l.configName.toList, l.rank)) ++
    [("FATAL".toList, LogLevel.critical.rank), ("WARN".toList, LogLevel.warning.rank),
      ("NOTSET".toList, 0)]

/-- The rank of a level name in any case. -/
def rankOfName? (name : Text) : Option Nat :=
  (namedRanks.find? (·.1 = name.upper)).map (·.2)

/-- The least rank of the whole log; a given name replaces the configured level. -/
def LoggingConfig.leastRank (c : LoggingConfig) (override : Option Text) : Option Nat :=
  match override with
  | some name => if name.isEmpty then some c.level.rank else rankOfName? name
  | none => some c.level.rank

/-- The least rank of an output of a log whose own least rank is `whole`. -/
def LogOutput.leastRank (o : LogOutput) (whole : Nat) : Nat := (o.level.map (·.rank)).getD whole

/-- Whether an output writes an event; a silenced console does not. -/
def LogOutput.accepts (o : LogOutput) (whole : Nat) (silenced : Bool) (level : LogLevel) : Bool :=
  decide (whole ≤ level.rank) && decide (o.leastRank whole ≤ level.rank) &&
    !(silenced && o.destination.isScreen)

/-! ## Which events can be logged -/

/-- A field that keeps an event from being logged, for what it names is given otherwise. -/
structure LogFault where
  /-- Whether the whole log leaves out events of this level. -/
  isLeftOut : Bool
  /-- The name of the field. -/
  field : Text
deriving DecidableEq, Repr

/-- The wording of a fault: the name of the step that is given a value twice, and which one. -/
def LogFault.message (f : LogFault) : Text :=
  let step :=
    if f.isLeftOut then "_nop"
    else if f.field = "method_name".toList then "BoundLoggerBase._proxy_to_logger"
    else "_make_filtering_bound_logger.<locals>.make_method.<locals>.meth"
  concat [step, "() got multiple values for argument ", f.field.quoted]

/-- The first field that keeps an event out of a log whose own least rank is `whole`. -/
def LogEvent.fault? (whole : Nat) (e : LogEvent) : Option LogFault :=
  let isLeftOut := decide (e.level.rank < whole)
  let first (names : List Text) : Option LogFault :=
    ((e.fields.map (·.1)).find? names.contains).map (⟨isLeftOut, ·⟩)
  -- An event that is left out anyway does not come as far as the second step.
  (first ["self", "event"]).or (if isLeftOut then none else first ["method_name"])

/-! ## What a record holds -/

/-- The fields that no record holds: the time is that of the record, and two fields are used up on
the way. -/
def unwrittenFields : List Text := ["timestamp", "_record", "_from_structlog"]

/-- The drawing that is under way. -/
structure LogContext where
  /-- Its identifier. -/
  renderId : Option Text
  /-- The format of its source. -/
  format : Option Text
  /-- Where its source comes from. -/
  source : Option Text
deriving DecidableEq, Repr

namespace LogContext

/-- No drawing is under way. -/
def empty : LogContext := ⟨none, none, none⟩

/-- A text that is given and not empty. -/
def nonempty? (s : Option Text) : Option Text := s.filter fun s => !s.isEmpty

/-- A drawing begins; what is not said about it stays as it was. -/
def bind (c : LogContext) (renderId : Text) (format source : Option Text) : LogContext :=
  ⟨some renderId, (nonempty? format).or c.format, (nonempty? source).or c.source⟩

/-- The fields that every record has meanwhile. -/
def members (c : LogContext) : OrderedMap Json :=
  let known := [("render_id", c.renderId), ("format", c.format), ("source", c.source)]
  known.filterMap fun (key, value) => value.map fun s => (key.toList, Json.text s)

/-- The record of an event from a logger, whose name may be empty. -/
def record (c : LogContext) (logger : Text) (e : LogEvent) : OrderedMap Json :=
  let named : OrderedMap Json := if logger.isEmpty then [] else [("logger", .text logger)]
  let all := ((c.members.update named).update e.fields).insert "event" (.text e.event)
  (all.insert "level" (.text e.level.name)).filter fun (key, _) => !unwrittenFields.contains key

end LogContext

/-! ## What has been written -/

/-- A log with its outputs and what they have written. -/
structure LogBook where
  /-- The least rank of the whole log. -/
  leastRank : Nat
  /-- The drawing that is under way. -/
  context : LogContext
  /-- The outputs. -/
  outputs : List LogOutput
  /-- The records with their destinations, the oldest first. -/
  written : List (LogDestination × OrderedMap Json)

namespace LogBook

/-- A log that has written nothing. -/
def start (leastRank : Nat) (outputs : List LogOutput) : LogBook := ⟨leastRank, .empty, outputs, []⟩

/-- Writes an event through every output that accepts it. -/
def write (b : LogBook) (silenced : Bool) (logger : Text) (e : LogEvent) : LogBook :=
  let accepting := b.outputs.filter fun o => o.accepts b.leastRank silenced e.level
  { b with written := b.written ++
      accepting.map fun o => (o.destination, b.context.record logger e) }

/-- The records at a destination, whichever outputs have written them. -/
def recordsAt (b : LogBook) (d : LogDestination) : List (OrderedMap Json) :=
  (b.written.filter (·.1 = d)).map (·.2)

end LogBook

end SchemaDiagram
