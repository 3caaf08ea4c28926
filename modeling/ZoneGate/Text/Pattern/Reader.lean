import ZoneGate.Text.Hex
import ZoneGate.Text.Pattern
import ZoneGate.Text.Unicode

/-!
# The written form of patterns

Characters stand for themselves, `.` for any of them, and `\d`, `\s` and `\w` for digits, blanks and
the characters of a word. Classes such as `[a-z]` and `[^a-z]` hold characters, ranges, named sets
such as `[:alpha:]` and further classes, and `&&`, `--` and `~~` say what two of them have in
common, what only the first one has, and what only one of them has. Patterns are joined by writing
one after another or with `|`, repeated with `?`, `*` and `+` (which a further `?` turns to
preferring less), grouped by parentheses and tied to the ends of the text by `^` and `$`. Options at
the front of a group, as in `(?i)` and `(?i:x)`, hold to its end. Counted repetitions and whatever
looks at the neighbours of a place are refused.
-/
namespace ZoneGate.Text.Pattern

/-- How often a pattern is repeated. -/
inductive Count where
  | atMostOnce
  | atLeastOnce
  | anyTimes
  deriving DecidableEq, Repr

/-- What a group says about the patterns in it. -/
structure Options where
  /-- The case of letters does not count. -/
  anyCase : Bool
  /-- Repetitions prefer less, and with a question mark more. -/
  swapped : Bool
  deriving DecidableEq, Repr

/-- Options by their letters, each switched on or off. -/
abbrev Change := List (Char × Bool)

inductive Token where
  | set (s : CharSet)
  | place (p : Pattern)
  | repeated (count : Count) (lazily : Bool)
  | bar
  | opening (name : List Char) (change : Change)
  | options (change : Change)
  | closing

/-- What stands behind a backslash. -/
inductive Escape where
  | char (c : Char)
  | set (s : CharSet)
  | place (p : Pattern)

namespace Escape

/-- The controls that have a letter. -/
def controls : List (Char × Nat) :=
  [('a', 0x07), ('t', 0x09), ('n', 0x0A), ('v', 0x0B), ('f', 0x0C), ('r', 0x0D)]

/-- The letters before the hexadecimal digits of a code point, and how many they are. -/
def hexLengths : List (Char × Nat) := [('x', 2), ('u', 4), ('U', 8)]

/-- The sets that have a letter; its capital stands for all other characters. -/
def sets : List (Char × List (Nat × Nat)) :=
  [('d', [(0x30, 0x39)]), ('s', blankRanges),
   ('w', [(0x30, 0x39), (0x41, 0x5A), (0x5F, 0x5F), (0x61, 0x7A)])]

/-- The categories of characters by their first letter, of each the members in ASCII: controls,
letters, marks, numbers, punctuation, symbols and separators. -/
def categories : List (Char × List (Nat × Nat)) :=
  [('C', [(0x00, 0x1F), (0x7F, 0x7F)]),
   ('L', [(0x41, 0x5A), (0x61, 0x7A)]),
   ('M', []),
   ('N', [(0x30, 0x39)]),
   ('P', [(0x21, 0x23), (0x25, 0x2A), (0x2C, 0x2F), (0x3A, 0x3B), (0x3F, 0x40), (0x5B, 0x5D),
     (0x5F, 0x5F), (0x7B, 0x7B), (0x7D, 0x7D)]),
   ('S', [(0x24, 0x24), (0x2B, 0x2B), (0x3C, 0x3E), (0x5E, 0x5E), (0x60, 0x60), (0x7C, 0x7C),
     (0x7E, 0x7E)]),
   ('Z', [(0x20, 0x20)])]

/-- The character of a code point in hexadecimal. -/
def ofHex? (digits : List Char) : Option Char := do
  let values ← digits.mapM fun c => if c.toNat < 0x80 then Hex.digit? (byte c) else none
  let n := values.foldl (fun n value => 16 * n + value) 0
  if n.isValidChar then return Char.ofNat n else none

/-- Reads the letter of a category behind `p`, or behind `P` for all other characters. -/
def category? (negated : Bool) : List Char → Option (Escape × List Char)
  | [] => none
  | c :: rest =>
    (categories.lookup c.toUpper).map fun list =>
      (.set (if negated then .outside (.ofRanges list) else .ofRanges list), rest)

/-- Reads what stands behind a backslash. Marks of ASCII stand for themselves, letters and digits
only as said above. -/
def read? : List Char → Option (Escape × List Char)
  | [] => none
  | c :: rest =>
    match controls.lookup c, hexLengths.lookup c, sets.lookup c, sets.lookup (c.toLower) with
    | some n, _, _, _ => some (.char (Char.ofNat n), rest)
    | _, some count, _, _ =>
      if rest.length < count then none
      else (ofHex? (rest.take count)).map fun c => (.char c, rest.drop count)
    | _, _, some list, _ => some (.set (.ofRanges list), rest)
    | _, _, _, some list => some (.set (.outside (.ofRanges list)), rest)
    | _, _, _, _ =>
      if c = 'A' then some (.place .start, rest)
      else if c = 'z' then some (.place .finish, rest)
      else if c = 'p' || c = 'P' then category? (c = 'P') rest
      else if 0x80 ≤ c.toNat || c.isAlphanum || c = '<' || c = '>' then none
      else some (.char c, rest)

end Escape

/-! ## Classes -/

namespace CharClass

/-- The sets that have a name in classes. -/
def named : List (String × List (Nat × Nat)) :=
  [("alnum", [(0x30, 0x39), (0x41, 0x5A), (0x61, 0x7A)]),
   ("alpha", [(0x41, 0x5A), (0x61, 0x7A)]),
   ("ascii", [(0x00, 0x7F)]),
   ("blank", [(0x09, 0x09), (0x20, 0x20)]),
   ("cntrl", [(0x00, 0x1F), (0x7F, 0x7F)]),
   ("digit", [(0x30, 0x39)]),
   ("graph", [(0x21, 0x7E)]),
   ("lower", [(0x61, 0x7A)]),
   ("print", [(0x20, 0x7E)]),
   ("punct", [(0x21, 0x2F), (0x3A, 0x40), (0x5B, 0x60), (0x7B, 0x7E)]),
   ("space", [(0x09, 0x0D), (0x20, 0x20)]),
   ("upper", [(0x41, 0x5A)]),
   ("word", [(0x30, 0x39), (0x41, 0x5A), (0x5F, 0x5F), (0x61, 0x7A)]),
   ("xdigit", [(0x30, 0x39), (0x41, 0x46), (0x61, 0x66)])]

/-- Reads a named set behind its bracket, as in `:alpha:]` and `:^alpha:]`. -/
def named? : List Char → Option (CharSet × List Char)
  | ':' :: rest =>
    let negated := rest.head? = some '^'
    let rest := if negated then rest.drop 1 else rest
    let name := rest.takeWhile (· ≠ ':')
    match rest.drop name.length, named.lookup (String.ofList name) with
    | ':' :: ']' :: rest, some list =>
      some (if negated then .outside (.ofRanges list) else .ofRanges list, rest)
    | _, _ => none
  | _ => none

/-- One end of a range in a class, or a set in its place. -/
def member? : List Char → Option (Escape × List Char)
  | [] => none
  | '\\' :: rest => Escape.read? rest
  | c :: rest => some (.char c, rest)

/-- Reads a set, a character, or a range of characters. A dash before the closing bracket or before
another dash makes no range. -/
def range? (cs : List Char) : Option (CharSet × List Char) :=
  match member? cs with
  | none | some (.place _, _) => none
  | some (.char low, '-' :: c :: rest) =>
    if c = ']' || c = '-' then some (.single low, '-' :: c :: rest)
    else
      match member? (c :: rest) with
      | some (.char high, rest) => if high < low then none else some (.between low high, rest)
      | _ => none
  | some (.set s, '-' :: c :: rest) =>
    if c = ']' || c = '-' then some (s, '-' :: c :: rest) else none
  | some (.char c, rest) => some (.single c, rest)
  | some (.set s, rest) => some (s, rest)

/-- What is known of a class while its members are read. -/
structure Partial where
  negated : Bool
  /-- What the operators before have to say about the members that are being read. -/
  before : Option ((CharSet → CharSet → CharSet) × CharSet)
  members : CharSet

namespace Partial

def add (c : Partial) (s : CharSet) : Partial := { c with members := .union c.members s }

/-- The set of all members so far. Operators are taken from left to right. -/
def set (c : Partial) : CharSet :=
  match c.before with
  | none => c.members
  | some (combine, left) => combine left c.members

/-- Begins the right side of an operator. -/
def combine (c : Partial) (operator : CharSet → CharSet → CharSet) : Partial :=
  ⟨c.negated, some (operator, c.set), .ofRanges []⟩

/-- The class with its closing bracket. -/
def close (c : Partial) : CharSet := if c.negated then .outside c.set else c.set

/-- The front of a class behind its opening bracket. Dashes at the front stand for themselves, and
so does a closing bracket that would leave the class empty. -/
def front (cs : List Char) : Partial × List Char :=
  let negated := cs.head? = some '^'
  let cs := if negated then cs.drop 1 else cs
  let rest := cs.dropWhile (· = '-')
  if rest.length < cs.length then (⟨negated, none, .single '-'⟩, rest)
  else
    match cs with
    | ']' :: rest => (⟨negated, none, .single ']'⟩, rest)
    | cs => (⟨negated, none, .ofRanges []⟩, cs)

end Partial

/-- The operators of classes, each written as two marks. -/
def operators : List (Char × (CharSet → CharSet → CharSet)) :=
  [('&', .common), ('-', .without), ('~', .differing)]

/-- Reads the members of a class up to its closing bracket, with the classes around it, the
innermost first. -/
def members? : Partial × List Partial → List Char → Option (CharSet × List Char)
  | _, [] => none
  | (c, around), mark :: rest =>
    if mark = ']' then
      match around with
      | [] => some (c.close, rest)
      | outer :: around => members? (outer.add c.close, around) rest
    else
      match if rest.head? = some mark then operators.lookup mark else none with
      | some operator =>
        if (rest.drop 1).length ≤ rest.length then
          members? (c.combine operator, around) (rest.drop 1)
        else none
      | none =>
        let member :=
          if mark = '[' then named? rest
          else range? (mark :: rest)
        match member with
        | some (s, left) =>
          if left.length ≤ rest.length then members? (c.add s, around) left else none
        | none =>
          let (inner, left) := Partial.front rest
          if mark = '[' && decide (left.length ≤ rest.length) then
            members? (inner, c :: around) left
          else none
termination_by _ cs => cs.length
decreasing_by
  all_goals
    simp only [Bool.and_eq_true, decide_eq_true_eq, List.length_cons] at *
    omega

/-- Reads a class behind its opening bracket. -/
def read? (cs : List Char) : Option (CharSet × List Char) :=
  let (c, rest) := Partial.front cs
  members? (c, []) rest

end CharClass

/-! ## Tokens -/

namespace Token

/-- The letters of options. Those for more than one line change nothing in a text of one. -/
def optionLetters : List Char := ['i', 'm', 's', 'R', 'U', 'u']

/-- Reads options: letters to switch on, and behind a dash letters to switch off. -/
def change? (cs : List Char) : Option Change :=
  let legal (on off : List Char) : Option Change :=
    if (on ++ off).all optionLetters.contains && decide (on ++ off).Nodup && !off.contains 'u' then
      some (on.map (·, true) ++ off.map (·, false))
    else none
  match splitAt '-' cs with
  | [on] => legal on []
  | [on, off] => if off.isEmpty then none else legal on off
  | _ => none

/-- Whether a text can name a group. -/
def isGroupName (cs : List Char) : Bool :=
  match cs with
  | [] => false
  | first :: rest =>
    (first = '_' || (isLetterOrNumber first && !first.isDigit)) &&
      rest.all fun c => isLetterOrNumber c || ['_', '.', '[', ']'].contains c

/-- Reads the name of a group behind the angle bracket. -/
def named? (cs : List Char) : Option (Token × List Char) :=
  let name := cs.takeWhile (· ≠ '>')
  if isGroupName name && name.length < cs.length then
    some (.opening name [], cs.drop (name.length + 1))
  else none

/-- Reads the front of a group behind its parenthesis. -/
def group? : List Char → Option (Token × List Char)
  | '?' :: 'P' :: '<' :: rest => named? rest
  | '?' :: '<' :: rest => named? rest
  | '?' :: rest => do
    let letters := rest.takeWhile fun c => c ≠ ':' && c ≠ ')'
    let change ← change? letters
    match rest.drop letters.length with
    | ':' :: rest => return (.opening [] change, rest)
    | ')' :: rest => if change.isEmpty then none else return (.options change, rest)
    | _ => none
  | rest => some (.opening [] [], rest)

/-- Reads a token; the first character is given on its own. -/
def read? (c : Char) (rest : List Char) : Option (Token × List Char) :=
  let times (count : Count) : Token × List Char :=
    if rest.head? = some '?' then (.repeated count true, rest.drop 1)
    else (.repeated count false, rest)
  match c with
  | '?' => some (times .atMostOnce)
  | '*' => some (times .anyTimes)
  | '+' => some (times .atLeastOnce)
  | '|' => some (.bar, rest)
  | '(' => group? rest
  | ')' => some (.closing, rest)
  | '[' => (CharClass.read? rest).map fun (s, rest) => (.set s, rest)
  | '\x7b' => none
  | '.' => some (.set .inLine, rest)
  | '^' => some (.place .start, rest)
  | '$' => some (.place .finish, rest)
  | '\\' => (Escape.read? rest).map fun
    | (.char c, rest) => (.set (.single c), rest)
    | (.set s, rest) => (.set s, rest)
    | (.place p, rest) => (.place p, rest)
  | c => some (.set (.single c), rest)

/-- The tokens of a text. -/
def list? : List Char → Option (List Token)
  | [] => some []
  | c :: rest =>
    match read? c rest with
    | none => none
    | some (token, left) =>
      if left.length ≤ rest.length then (list? left).map (token :: ·) else none
termination_by cs => cs.length
decreasing_by simp; omega

/-- The name that a token gives to a group. -/
def name? : Token → Option (List Char)
  | opening name _ => if name.isEmpty then none else some name
  | _ => none

end Token

/-- A group that is being read. -/
structure Group where
  options : Options
  /-- The alternatives that are complete, the latest first. -/
  complete : List Pattern
  /-- What the alternative at hand consists of so far, the latest first. -/
  items : List Pattern
  /-- Whether the latest item may be repeated. -/
  repeatable : Bool

namespace Group

/-- A group with nothing in it yet. -/
def within (o : Options) (change : Change) : Group :=
  let options := change.foldl (fun (o : Options) (letter, on) =>
    if letter = 'i' then { o with anyCase := on }
    else if letter = 'U' then { o with swapped := on }
    else o) o
  ⟨options, [], [], false⟩

/-- The alternative at hand. -/
def alternative (g : Group) : Pattern := g.items.foldl (fun rest p => p.before rest) .empty

def pattern (g : Group) : Pattern :=
  g.complete.foldl (fun others p => .either p others) g.alternative

def add (g : Group) (p : Pattern) : Group := { g with items := p :: g.items, repeatable := true }

/-- A pattern some number of times. -/
def times (count : Count) (greedy : Bool) (p : Pattern) : Pattern :=
  match count with
  | .atMostOnce => if greedy then .either p .empty else .either .empty p
  | .atLeastOnce => p.before (.many greedy p)
  | .anyTimes => .many greedy p

/-- Takes in one more token, with the groups around the one at hand, the innermost first. -/
def step : Group × List Group → Token → Option (Group × List Group)
  | (g, around), .set s =>
    some (g.add (.one (if g.options.anyCase then s.ignoringCase else s)), around)
  | (g, around), .place p => some (g.add p, around)
  | (g, around), .repeated count lazily =>
    match g.items with
    | last :: others =>
      if g.repeatable then
        some ({ g with items := times count (lazily == g.options.swapped) last :: others }, around)
      else none
    | [] => none
  | (g, around), .bar =>
    some ({ g with complete := g.alternative :: g.complete, items := [], repeatable := false },
      around)
  | (g, around), .opening _ change => some (within g.options change, g :: around)
  | (g, around), .options change =>
    some ({ g with options := (within g.options change).options, repeatable := false }, around)
  | (g, outer :: around), .closing => some (outer.add g.pattern, around)
  | (_, []), .closing => none

end Group

/-- Reads a pattern. -/
def parse? (s : String) : Option Pattern := do
  let tokens ← Token.list? s.toList
  if !decide (tokens.filterMap Token.name?).Nodup then none
  match ← tokens.foldlM Group.step (.within ⟨false, false⟩ [], []) with
  | (g, []) => return g.pattern
  | (_, _ :: _) => none

end ZoneGate.Text.Pattern
