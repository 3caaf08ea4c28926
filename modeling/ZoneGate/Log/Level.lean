import ZoneGate.Json.Format
import ZoneGate.Text.Ascii

/-!
# Levels and limits

An event is at a level, and a limit lets through everything up to a level or nothing at all.
-/
namespace ZoneGate.Log

inductive Level where
  | trace
  | debug
  | info
  | warn
  | error
  deriving DecidableEq, Repr

namespace Level

def all : List Level := [trace, debug, info, warn, error]

def name : Level → String
  | trace => "trace"
  | debug => "debug"
  | info => "info"
  | warn => "warn"
  | error => "error"

/-- The name in a log line. -/
def label : Level → String
  | trace => "TRACE"
  | debug => "DEBUG"
  | info => "INFO"
  | warn => "WARN"
  | error => "ERROR"

/-- How detailed a level is, from 1 for errors only to 5. -/
def detail : Level → Nat
  | error => 1
  | warn => 2
  | info => 3
  | debug => 4
  | trace => 5

def ofDetail? (n : Nat) : Option Level := all.find? fun level => level.detail = n

def format : Json.Format Level := Json.Format.choice (all.map fun level => (level.name, level))

def toJson (level : Level) : Json.Value := .string level.name

end Level

/-- How much is let through: nothing, or everything up to a level. -/
abbrev Limit := Option Level

namespace Limit

/-- Reads a limit: the name of a level in any case, `off`, or a number from 0 to 5. -/
def parse? (s : String) : Option Limit :=
  match Text.plusDecimal? (Text.bytes s) with
  | some 0 => some none
  | some n => (Level.ofDetail? n).map some
  | none =>
    if Text.sameIgnoringCase s "off" then some none
    else (Level.all.find? fun level => Text.sameIgnoringCase s level.name).map some

/-- How detailed a limit is, from 0 for nothing to 5. -/
def detail : Limit → Nat
  | none => 0
  | some level => level.detail

def allows (limit : Limit) (level : Level) : Bool := level.detail ≤ limit.detail

/-- The limit that lets through what one of some limits does. -/
def widest (limits : List Limit) : Limit :=
  limits.foldl (fun widest limit => if widest.detail < limit.detail then limit else widest) none

theorem allows_widest {limits : List Limit} {level : Level} :
    (widest limits).allows level = limits.any (·.allows level) := by
  suffices h : ∀ first : Limit,
      (limits.foldl (fun widest limit => if widest.detail < limit.detail then limit else widest)
        first).allows level = (first.allows level || limits.any (·.allows level)) by
    have := h none
    have none_allows : Limit.allows none level = false := by cases level <;> decide
    simpa [widest, none_allows] using this
  induction limits with
  | nil => simp
  | cons limit rest ih =>
    intro first
    simp only [List.foldl_cons, List.any_cons, ih, ← Bool.or_assoc]
    congr 1
    split <;> simp only [allows] <;> grind

def text : Limit → String
  | none => "off"
  | some level => level.name

end Limit

end ZoneGate.Log
