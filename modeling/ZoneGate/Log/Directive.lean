import ZoneGate.Log.Event
import ZoneGate.Text.Pattern.Reader
import ZoneGate.Text.Unicode

/-!
# Log directives

A directive sets a limit for the targets that begin with its own. In brackets it may name a span,
and in braces a field of a span and the value that the field is to have:
`TARGET[SPAN{FIELD=VALUE}]=LIMIT`, where every part may be left out. Such a directive is about the
events within these spans.
-/
namespace ZoneGate.Log

/-- A value that a field is to have. -/
inductive Wanted where
  /-- A truth value or a number. Fields hold text, so none has it. -/
  | constant (text : String)
  | pattern (text : String) (pattern : Text.Pattern)
  deriving DecidableEq

namespace Wanted

/-- Whether a text ends like a number in scientific notation, or is empty. -/
def isExponent (cs : List Char) : Bool :=
  match cs with
  | [] => true
  | e :: rest =>
    let digits := if rest.head? = some '+' || rest.head? = some '-' then rest.drop 1 else rest
    (e = 'e' || e = 'E') && !digits.isEmpty && digits.all Char.isDigit

/-- Whether a text is a number: with or without a sign, a decimal point and an exponent, or one of
the names of what is no finite number. -/
def isNumber (cs : List Char) : Bool :=
  let cs := if cs.head? = some '+' || cs.head? = some '-' then cs.drop 1 else cs
  let whole := cs.takeWhile Char.isDigit
  let rest := cs.dropWhile Char.isDigit
  let pointed := rest.head? = some '.'
  let fraction := if pointed then (rest.drop 1).takeWhile Char.isDigit else []
  let rest := if pointed then (rest.drop 1).dropWhile Char.isDigit else rest
  (["inf", "infinity", "nan"].any fun name => cs.map Char.toLower = name.toList) ||
    (!(whole ++ fraction).isEmpty && isExponent rest)

/-- Reads a value; what is no truth value and no number is a pattern. -/
def parse? (s : String) : Option Wanted :=
  if s = "true" || s = "false" || isNumber s.toList then some (.constant s)
  else (Text.Pattern.parse? s).map (.pattern s)

def text : Wanted → String
  | constant s => s
  | pattern s _ => s

def accepts (w : Wanted) (value : String) : Bool :=
  match w with
  | constant _ => false
  | pattern _ p => p.accepts value

end Wanted

/-- A field that a span is to have. -/
structure Condition where
  field : String
  /-- Any value will do if none is wanted. -/
  value : Option Wanted
  deriving DecidableEq

namespace Condition

/-- Reads `FIELD` or `FIELD=VALUE`; a second equals sign ends the value. -/
def parse? (s : String) : Option Condition :=
  if s.isEmpty then none
  else
    match Text.splitAt '=' s.toList with
    | field :: value :: _ =>
      (Wanted.parse? (String.ofList value)).map fun wanted => ⟨String.ofList field, some wanted⟩
    | _ => some ⟨s, none⟩

def text (c : Condition) : String :=
  match c.value with
  | none => c.field
  | some wanted => c.field ++ "=" ++ wanted.text

/-- Whether a span has the field. -/
def covers (c : Condition) (s : Span) : Bool := s.fields.any fun f => f.name = c.field

/-- Whether a span has the field with the value. -/
def accepts (c : Condition) (s : Span) : Bool :=
  s.fields.any fun f => f.name = c.field && c.value.all (·.accepts f.value)

end Condition

structure Directive where
  /-- The beginning of the targets it is for; empty for all. -/
  target : String
  /-- The name of the spans it is about, if only some. -/
  span : Option String
  condition : Option Condition
  limit : Limit
  deriving DecidableEq

namespace Directive

/-- A directive for targets and everything in them. -/
def ofTarget (target : String) (limit : Limit) : Directive := ⟨target, none, none, limit⟩

/-- Which part of a directive is being read, with the offset at which it begins. -/
inductive Stage where
  | front
  /-- A limit or a target. -/
  | first (start : Nat)
  | span (start : Nat)
  | condition (start : Nat)
  /-- Behind the condition. -/
  | braced
  /-- Behind the brackets. -/
  | bracketed
  | limit (start : Nat)

/-- Whether a directive may begin with a character. -/
def isFrontChar (c : Char) : Bool := ['-', ':', '_'].contains c || Text.isLetterOrNumber c

/-- Takes in the character at an offset; `cut` gives the text between two offsets. -/
def step (cut : Nat → Nat → Option String) (offset : Nat) (c : Char) :
    Stage × Directive → Option (Stage × Directive)
  | (.front, d) =>
    if c = '[' then some (.span (offset + 1), d)
    else if isFrontChar c then some (.first offset, d)
    else none
  | (.first start, d) =>
    if c = '=' then (cut start offset).map fun target => (.limit (offset + 1), { d with target })
    else if c = '[' then
      (cut start offset).map fun target => (.span (offset + 1), { d with target })
    else some (.first start, d)
  | (.span start, d) =>
    if c = ']' then
      (cut start offset).map fun name => (.bracketed, { d with span := some name })
    else if c = '\x7b' then
      (cut start offset).map fun name =>
        (.condition (offset + 1), { d with span := if name.isEmpty then none else some name })
    else some (.span start, d)
  | (.condition start, d) =>
    if c = '\x7d' then
      ((cut start offset).bind Condition.parse?).map fun condition =>
        (.braced, { d with condition := some condition })
    else some (.condition start, d)
  | (.braced, d) => if c = ']' then some (.bracketed, d) else none
  | (.bracketed, d) => if c = '=' then some (.limit (offset + 1), d) else none
  | (.limit start, d) => some (.limit start, d)

/-- Takes in the characters from an offset on. -/
def scan (cut : Nat → Nat → Option String) :
    Nat → Stage × Directive → List Char → Option (Stage × Directive)
  | _, read, [] => some read
  | offset, read, c :: rest =>
    (step cut offset c read).bind fun read => scan cut (offset + c.utf8Size) read rest

/-- The directive, once all of it has been read; `cut` gives the text from an offset on. A target or
an equals sign with no limit behind it lets everything through. -/
def complete (cut : Nat → Option String) : Stage × Directive → Option Directive
  | (.first start, d) =>
    (cut start).map fun text =>
      match Limit.parse? text with
      | some limit => { d with limit }
      | none => { d with target := text }
  | (.limit start, d) =>
    (cut start).bind fun text =>
      if text.isEmpty then some d else (Limit.parse? text).map fun limit => { d with limit }
  | (.bracketed, d) => some d
  | _ => none

/-- Reads a directive. Offsets are counted in bytes from the first character that is no blank, but
cuts are made in the text as it is. So blanks before a directive push its parts out of place, and
blanks behind it belong to its last part. -/
def parse? (s : String) : Option Directive :=
  let bytes := Text.bytes s
  let cut (start stop : Nat) : Option String := Text.ofBytes? ((bytes.take stop).drop start)
  (scan cut 0 (.front, ofTarget "" (some .trace)) (Text.trimList s.toList)).bind
    (complete (cut · bytes.length))

def text (d : Directive) : String :=
  let condition := (d.condition.map fun c => "\x7b" ++ c.text ++ "\x7d").getD ""
  let spans :=
    if d.span.isNone && d.condition.isNone then "" else "[" ++ d.span.getD "" ++ condition ++ "]"
  if d.target.isEmpty && spans.isEmpty then d.limit.text
  else d.target ++ spans ++ "=" ++ d.limit.text

/-- Whether it is about the events within spans. -/
def isDynamic (d : Directive) : Bool := d.span.isSome || d.condition.isSome

/-- Whether a certain value is wanted. -/
def wantsValue (d : Directive) : Bool := d.condition.any (·.value.isSome)

/-- Whether it is about targets whatever the span. A directive that asks for a field but for no
value is about both. -/
def isStatic (d : Directive) : Bool := d.span.isNone && !d.wantsValue

/-- Whether a target is among those it is for. -/
def coversTarget (d : Directive) (target : String) : Bool := Text.startsWith d.target target

/-- Whether it decides about an event by its target. An event has no field but its message. -/
def coversEvent (d : Directive) (e : Event) : Bool :=
  d.isStatic && d.coversTarget e.target && d.condition.all fun c => c.field = "message"

/-- Whether a span is among those it is about. -/
def coversSpan (d : Directive) (s : Span) : Bool :=
  d.isDynamic && d.coversTarget s.target && d.span.all (· = s.name) &&
    d.condition.all (·.covers s)

/-- Whether a span that it is about also has the value that is wanted. -/
def acceptsSpan (d : Directive) (s : Span) : Bool :=
  d.coversSpan s && d.condition.all (·.accepts s)

/-- Whether two directives are about the same, so that the later one stands for both. -/
def sameSubject (d e : Directive) : Bool :=
  d.target = e.target && d.span = e.span && d.condition = e.condition

/-- Whether it decides in place of an earlier one: its target is longer, or as long and its field
comes no earlier, where no field at all comes first. -/
def prevails (d earlier : Directive) : Bool :=
  if d.target.length = earlier.target.length then
    match d.condition, earlier.condition with
    | _, none => true
    | none, some _ => false
    | some c, some e => !(c.field < e.field)
  else earlier.target.length < d.target.length

end Directive

end ZoneGate.Log
