import ZoneGate.Http.Target
import ZoneGate.Text.Hex

/-!
# Web addresses

An address of the web in its normal form: dot segments are resolved, backslashes count as slashes,
and characters that may not stand in a path or query are percent-encoded. A reference that is no
whole address is read relative to another one.

Hosts are read more simply than the standard for addresses has it, as `Url.authority?` says.
-/
namespace ZoneGate.Http

structure Url where
  /-- Whether the scheme is `https`. -/
  secure : Bool
  /-- The host in small letters, with the port unless it is the usual one of the scheme. -/
  authority : String
  /-- What stands between the slashes of the path. -/
  segments : List String
  query : Option String
  deriving DecidableEq, Repr

namespace Url

/-- Removes controls and spaces at the two ends, and line breaks and tabs anywhere. -/
def clean (cs : List Char) : List Char :=
  let isEdge (c : Char) : Bool := c.toNat ≤ 0x20
  (((cs.dropWhile isEdge).reverse.dropWhile isEdge).reverse).filter fun c =>
    c ≠ '\t' && c ≠ '\n' && c ≠ '\r'

def isSlash (c : Char) : Bool := c = '/' || c = '\\'

/-- Writes a character as it is or, where it may not stand, as escaped bytes. -/
def encodeChar (excluded : List Char) (c : Char) : List Char :=
  if c.toNat ≤ 0x20 || 0x7F ≤ c.toNat || excluded.contains c then
    (String.utf8EncodeChar c).flatMap fun b =>
      (Text.Percent.escape b).map fun e => Char.ofNat e.toNat
  else [c]

/-- What may not stand in a path as it is. -/
def outsidePath : List Char := ['"', '<', '>', '\x60', '#', '?', '\x7b', '\x7d']

/-- What may not stand in a query as it is. -/
def outsideQuery : List Char := ['"', '<', '>', '#', '\x27']

/-- A segment with its escaped dots read as dots, in small letters. -/
def dots : List Char → List Char
  | '%' :: '2' :: e :: rest => if e = 'e' || e = 'E' then '.' :: dots rest else '%' :: dots rest
  | c :: rest => c :: dots rest
  | [] => []

/-- Whether a segment names the place that it is in. -/
def isDot (segment : List Char) : Bool := dots segment = ['.']

/-- Whether a segment names the place above. -/
def isDoubleDot (segment : List Char) : Bool := dots segment = ['.', '.']

/-- Adds segments to those of a path, which are held in reverse. Dots move about in the path and
leave an empty segment where they come last. -/
def addSegments : List (List Char) → List (List Char) → List (List Char)
  | [], done => done
  | segment :: rest, done =>
    let next :=
      if isDoubleDot segment then done.drop 1
      else if isDot segment then done
      else segment.flatMap (encodeChar outsidePath) :: done
    if rest.isEmpty && (isDot segment || isDoubleDot segment) then [] :: next
    else addSegments rest next

/-- The segments between slashes of either kind. -/
def splitPath (cs : List Char) : List (List Char) :=
  Text.splitAt '/' (cs.map fun c => if c = '\\' then '/' else c)

/-- A path or query and what follows it. -/
structure Parts where
  path : List Char
  query : Option (List Char)

/-- Splits off the query and drops the fragment. -/
def parts (cs : List Char) : Parts :=
  let whole := cs.takeWhile (· ≠ '#')
  let path := whole.takeWhile (· ≠ '?')
  match whole.dropWhile (· ≠ '?') with
  | [] => ⟨path, none⟩
  | _ :: query => ⟨path, some query⟩

def encodeQuery (query : Option (List Char)) : Option String :=
  query.map fun cs => String.ofList (cs.flatMap (encodeChar outsideQuery))

/-- The address at a place below an authority, where the path starts from given segments in
reverse. -/
def place (secure : Bool) (authority : String) (start : List (List Char)) (cs : List Char) : Url :=
  let p := parts cs
  let path := match p.path with
    | c :: rest => if isSlash c then rest else c :: rest
    | [] => []
  ⟨secure, authority, (addSegments (splitPath path) start).reverse.map String.ofList,
    encodeQuery p.query⟩

def isHostChar (c : Char) : Bool := c.isAlphanum || "-._~!$&'()*+,;=".toList.contains c

/-- Whether a text names a host: a name or version 4 address, or a version 6 address in
brackets. -/
def isHost (cs : List Char) : Bool :=
  match cs with
  | '[' :: rest =>
    rest.getLast? = some ']' &&
      rest.dropLast.all fun c => c = ':' || c = '.' || (Text.Hex.digit? (Text.byte c)).isSome
  | _ => !cs.isEmpty && cs.all isHostChar

/-- Reads an authority. A user's name is dropped. The host is taken as it is written, in small
letters: escapes in it are not decoded, names outside ASCII are refused and not translated, and what
looks like an address of version 4 or 6 is neither checked nor brought into its normal form. -/
def authority? (secure : Bool) (cs : List Char) : Option String := do
  let host := ((Text.splitAt '@' cs).getLast?.getD []).map Char.toLower
  let digits := (host.reverse.takeWhile Char.isDigit).reverse
  let name := (host.reverse.dropWhile Char.isDigit).reverse
  if name.getLast? = some ':' && name.head? ≠ some ':' && isHost name.dropLast then
    let port := Text.decimal (digits.map Text.byte)
    if 65535 < port then failure
    if digits.isEmpty || port = (if secure then 443 else 80) then
      return String.ofList name.dropLast
    return String.ofList name ++ toString port
  else if isHost host then return String.ofList host
  else failure

/-- Reads what follows the slashes after a scheme. -/
def afterSlashes? (secure : Bool) (cs : List Char) : Option Url := do
  let isEnd (c : Char) : Bool := isSlash c || c = '?' || c = '#'
  let authority ← authority? secure (cs.takeWhile fun c => !isEnd c)
  return place secure authority [] (cs.dropWhile fun c => !isEnd c)

/-- The scheme at the front of a text, in small letters, and what follows its colon. -/
def scheme? (cs : List Char) : Option (String × List Char) :=
  let isSchemeChar (c : Char) : Bool := c.isAlphanum || c = '+' || c = '-' || c = '.'
  match cs.takeWhile isSchemeChar, cs.dropWhile isSchemeChar with
  | first :: name, ':' :: rest =>
    if first.isAlpha then some (String.ofList ((first :: name).map Char.toLower), rest) else none
  | _, _ => none

/-- Whether a scheme is secure, if it is one of the web's. -/
def secure? (scheme : String) : Option Bool :=
  if scheme = "https" then some true else if scheme = "http" then some false else none

/-- Reads a whole address of the web. How many slashes follow the scheme does not matter. -/
def parse? (s : String) : Option Url := do
  let (scheme, rest) ← scheme? (clean s.toList)
  afterSlashes? (← secure? scheme) (rest.dropWhile isSlash)

/-- What a reference leads to. -/
inductive Referent where
  | url (u : Url)
  /-- An address that is not of the web. -/
  | foreign
  | nothing
  deriving DecidableEq

/-- Reads a reference that does not name a scheme, or names the one of the address it is in. -/
def relative (u : Url) (cs : List Char) : Referent :=
  let start := (u.segments.map String.toList).reverse
  match cs with
  | [] => .url u
  | [c] =>
    if isSlash c then .url (place u.secure u.authority [] cs)
    else if c = '#' then .url u
    else if c = '?' then .url { u with query := some "" }
    else .url (place u.secure u.authority (start.drop 1) cs)
  | c :: d :: rest =>
    if isSlash c && isSlash d then
      match afterSlashes? u.secure (rest.dropWhile isSlash) with
      | some v => .url v
      | none => .nothing
    else if isSlash c then .url (place u.secure u.authority [] cs)
    else if c = '#' then .url u
    else if c = '?' then .url { u with query := encodeQuery (parts cs).query }
    else .url (place u.secure u.authority (start.drop 1) cs)

/-- Whether a request can name an address that is not of the web, looked at as it is written. -/
def isNameable (cs : List Char) : Bool :=
  (Target.parse? (String.ofList (cs.flatMap (encodeChar [])))).isSome

/-- What a reference found at an address leads to. One that is not of the web leads nowhere if no
request can name it. One of the web can be named unless it is too long, and its length is not looked
at. -/
def resolve (u : Url) (reference : String) : Referent :=
  let cs := clean reference.toList
  match scheme? cs with
  | none => relative u cs
  | some (scheme, rest) =>
    match secure? scheme with
    | none => if isNameable cs then .foreign else .nothing
    | some secure =>
      if secure = u.secure && (rest.takeWhile isSlash).length < 2 then relative u rest
      else
        match afterSlashes? secure (rest.dropWhile isSlash) with
        | some v => .url v
        | none => .nothing

/-- The path and query, as a request names them. -/
def target (u : Url) : String :=
  let path := "/" ++ "/".intercalate u.segments
  match u.query with
  | none => path
  | some query => path ++ "?" ++ query

/-- The scheme and authority. -/
def origin (u : Url) : String := (if u.secure then "https://" else "http://") ++ u.authority

end Url

end ZoneGate.Http
