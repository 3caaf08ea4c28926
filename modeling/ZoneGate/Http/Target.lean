import ZoneGate.Text.Ascii

/-!
# Request targets

What a request line names: a path with an optional query, an absolute address, an authority alone,
or an asterisk. Only the path and the query matter from then on; a fragment is cut off. A target
with a byte that may not stand where it stands is refused.
-/
namespace ZoneGate.Http

structure Target where
  /-- The path, still percent-encoded. -/
  path : String
  /-- The path with the query, if there is one. -/
  pathAndQuery : String
  deriving DecidableEq, Repr

namespace Target

/-- A character that may stand in a path. Quotes and braces are let through although they should
be escaped. -/
def isPathChar (c : Char) : Bool :=
  let n := c.toNat
  n = 0x21 || n = 0x22 || (0x24 ≤ n && n ≤ 0x3B) || n = 0x3D || (0x40 ≤ n && n ≤ 0x5F) ||
    (0x61 ≤ n && n ≤ 0x7E)

/-- A character that may stand in a query. -/
def isQueryChar (c : Char) : Bool :=
  let n := c.toNat
  n = 0x21 || (0x24 ≤ n && n ≤ 0x3B) || n = 0x3D || (0x3F ≤ n && n ≤ 0x7E)

/-- The text before the first character that ends it, and the rest from there on. -/
def upTo (ends : Char → Bool) (cs : List Char) : List Char × List Char :=
  (cs.takeWhile fun c => !ends c, cs.dropWhile fun c => !ends c)

/-- A path with an optional query and fragment. An empty path is a slash. -/
def ofPath? (cs : List Char) : Option Target :=
  let (path, rest) := upTo (fun c => c = '?' || c = '#') cs
  let query := if rest.head? = some '?' then (upTo (· = '#') rest).1 else []
  if !path.all isPathChar || !(query.drop 1).all isQueryChar then none
  else
    let start := match path with
      | [] => ['/']
      | '/' :: _ => path
      | '*' :: _ => path
      | _ => '/' :: path
    some ⟨String.ofList (if path.isEmpty then ['/'] else path), String.ofList (start ++ query)⟩

/-- A character that may stand in an authority. -/
def isAuthorityChar (c : Char) : Bool := c.isAlphanum || "!$%&'()*+,-.:;=@[]_~".toList.contains c

/-- What has been seen of an authority. -/
structure Seen where
  colons : Nat
  opened : Bool
  closed : Bool
  percent : Bool
  /-- Whether the last character is the mark after the user's name. -/
  atEnd : Bool

/-- Takes in one more character of an authority. Colons and percent signs before the mark after the
user's name, and those between brackets, do not count. -/
def Seen.step (s : Seen) (c : Char) : Option Seen :=
  let s := { s with atEnd := c = '@' }
  if !isAuthorityChar c then none
  else if c = ':' then if 8 ≤ s.colons then none else some { s with colons := s.colons + 1 }
  else if c = '[' then if s.percent || s.opened then none else some { s with opened := true }
  else if c = ']' then
    if !s.opened || s.closed then none
    else some { s with closed := true, colons := 0, percent := false }
  else if c = '@' then some { s with colons := 0, percent := false }
  else if c = '%' then some { s with percent := true }
  else some s

/-- Whether a text is an authority: at most one colon, brackets in a pair, something after the
user's name and no stray percent sign. -/
def isAuthority (cs : List Char) : Bool :=
  match cs.foldlM Seen.step ⟨0, false, false, false, false⟩ with
  | none => false
  | some s => s.opened == s.closed && s.colons ≤ 1 && !s.atEnd && !s.percent

/-- A character that may stand in a scheme. -/
def isSchemeChar (c : Char) : Bool := c.isAlphanum || "+-.~".toList.contains c

/-- What follows the scheme and `://`, if the target begins with them. The scheme may be empty. -/
def afterScheme? (cs : List Char) : Option (List Char) :=
  match cs.dropWhile isSchemeChar with
  | ':' :: '/' :: '/' :: rest => some rest
  | _ => none

/-- The longest target that is looked at. -/
def maxLength : Nat := 65534

/-- Reads a target. -/
def parse? (s : String) : Option Target :=
  let cs := s.toList
  let endsAuthority (c : Char) : Bool := c = '/' || c = '?' || c = '#'
  if s.isEmpty || maxLength < s.utf8ByteSize then none
  else if cs = ['*'] then some ⟨"*", "*"⟩
  else if cs.head? = some '/' then ofPath? cs
  else
    match afterScheme? cs with
    | none => if isAuthority cs then some ⟨"", ""⟩ else none
    | some rest =>
      if 64 < (cs.takeWhile isSchemeChar).length then none
      else
        let (authority, path) := upTo endsAuthority rest
        if authority.isEmpty || !isAuthority authority then none else ofPath? path

end Target

end ZoneGate.Http
