/-!
# Patterns

Regular expressions with an order of preference: of two alternatives the left one is preferred, and
a repetition prefers to go on or to stop. A pattern is looked for from left to right, so the match
that counts begins as early as possible and is the preferred one of those that begin there. A text
satisfies a pattern if this match ends where the text ends.
-/
namespace ZoneGate.Text

/-- A set of characters. -/
inductive CharSet where
  /-- The characters in ranges of code points; the case of ASCII letters may not count. -/
  | ranges (list : List (Nat × Nat)) (anyCase : Bool)
  | outside (s : CharSet)
  | union (s t : CharSet)
  | common (s t : CharSet)
  | without (s t : CharSet)
  /-- What is in one of two sets and not in both. -/
  | differing (s t : CharSet)
  deriving DecidableEq, Repr

namespace CharSet

def ofRanges (list : List (Nat × Nat)) : CharSet := ranges list false

/-- The characters from one to another. -/
def between (first last : Char) : CharSet := ofRanges [(first.toNat, last.toNat)]

/-- The set of one character. -/
def single (c : Char) : CharSet := between c c

/-- The set of all characters that do not end a line. -/
def inLine : CharSet := outside (single '\n')

/-- The set where the case of ASCII letters does not count. -/
def ignoringCase : CharSet → CharSet
  | ranges list _ => ranges list true
  | outside s => outside s.ignoringCase
  | union s t => union s.ignoringCase t.ignoringCase
  | common s t => common s.ignoringCase t.ignoringCase
  | without s t => without s.ignoringCase t.ignoringCase
  | differing s t => differing s.ignoringCase t.ignoringCase

/-- An ASCII letter in its other case; any other character as it is. -/
def otherCase (c : Char) : Char := if c.isUpper then c.toLower else c.toUpper

/-- Whether a character is in one of some ranges. -/
def within (list : List (Nat × Nat)) (c : Char) : Bool :=
  list.any fun range => range.1 ≤ c.toNat && c.toNat ≤ range.2

def contains : CharSet → Char → Bool
  | ranges list anyCase, c => within list c || (anyCase && within list (otherCase c))
  | outside s, c => !s.contains c
  | union s t, c => s.contains c || t.contains c
  | common s t, c => s.contains c && t.contains c
  | without s t, c => s.contains c && !t.contains c
  | differing s t, c => s.contains c != t.contains c

end CharSet

inductive Pattern where
  | empty
  /-- The place before the first character. -/
  | start
  /-- The place after the last character. -/
  | finish
  | one (set : CharSet)
  | both (first second : Pattern)
  | either (preferred other : Pattern)
  /-- Any number of times; a greedy repetition prefers more. -/
  | many (greedy : Bool) (body : Pattern)
  deriving DecidableEq, Repr

namespace Pattern

/-- One pattern after another, where an empty one leaves no trace. -/
def before (first second : Pattern) : Pattern :=
  if first = empty then second else if second = empty then first else both first second

/-- A way to go on with a pattern. -/
inductive Move where
  /-- The match ends here. -/
  | stop
  /-- A character of the set comes next, and then the rest. -/
  | take (set : CharSet) (rest : Pattern)
  deriving DecidableEq, Repr

/-- What is left to do once a pattern has made a move. -/
def Move.andThen (m : Move) (next : Pattern) (onStop : List Move) : List Move :=
  match m with
  | stop => onStop
  | take set rest => [take set (rest.before next)]

/-- The ways to go on with a pattern, the preferred ones first. -/
def moves (atStart atFinish : Bool) : Pattern → List Move
  | empty => [.stop]
  | start => if atStart then [.stop] else []
  | finish => if atFinish then [.stop] else []
  | one set => [.take set empty]
  | both p q => (moves atStart atFinish p).flatMap (·.andThen q (moves atStart atFinish q))
  | either p q => moves atStart atFinish p ++ moves atStart atFinish q
  | many greedy p =>
    let again := (moves atStart atFinish p).flatMap (·.andThen (many greedy p) [.stop])
    if greedy then again ++ [.stop] else .stop :: again

/-- Whether the match that counts ends with the text. The list holds what is left of the matches
that have begun, the preferred ones first; a move that stops rules out all moves after it, and from
then on no match begins. -/
def run (p : Pattern) (begun : List Pattern) (searching atStart : Bool) : List Char → Bool
  | [] => (ways true).contains .stop
  | c :: rest =>
    let moves := ways false
    let next := (moves.takeWhile (· ≠ .stop)).filterMap fun
      | .stop => none
      | .take set q => if set.contains c then some q else none
    run p next.eraseDups (searching && !moves.contains .stop) false rest
where
  /-- All ways to go on from here. -/
  ways (atFinish : Bool) : List Move :=
    (if searching then begun ++ [p] else begun).flatMap (moves atStart atFinish)

/-- Whether a text satisfies a pattern. -/
def accepts (p : Pattern) (text : String) : Bool := p.run [] true true text.toList

end Pattern

end ZoneGate.Text
