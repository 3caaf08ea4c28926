import ZoneGate.Log.Level
import ZoneGate.Text.Quoted
import ZoneGate.Time.Timestamp

/-!
# What is logged

Events have a target, a level and a message. What happens in the course of a piece of work belongs
to the span of that work, which has a target and a level of its own and describes the work by its
fields.
-/
namespace ZoneGate.Log

/-- One thing that happened. -/
structure Event where
  target : String
  level : Level
  message : String
  deriving DecidableEq

structure Field where
  name : String
  value : String
  /-- The value is shown between quotation marks. -/
  quoted : Bool
  deriving DecidableEq

def Field.text (f : Field) : String :=
  f.name ++ "=" ++ (if f.quoted then Text.Quoted.text f.value else f.value)

/-- A piece of work that events belong to. -/
structure Span where
  target : String
  level : Level
  name : String
  fields : List Field
  deriving DecidableEq

/-- What stands before the events of a span in the log. -/
def Span.text (s : Span) : String :=
  s.name ++ "\x7b" ++ " ".intercalate (s.fields.map Field.text) ++ "\x7d: "

/-- An event as a line of the log. -/
def Event.line (e : Event) : String := e.level.label ++ " " ++ e.target ++ ": " ++ e.message

/-- An event as an entry of the log, with its time and what it belongs to. Labels are aligned at
their ends. -/
def Event.entry (e : Event) (time : Timestamp) (span : Option Span) : String :=
  let label := "".pushn ' ' (5 - e.level.label.length) ++ e.level.label
  let context := (span.map Span.text).getD ""
  time.text ++ " " ++ label ++ " " ++ context ++ e.target ++ ": " ++ e.message

end ZoneGate.Log
