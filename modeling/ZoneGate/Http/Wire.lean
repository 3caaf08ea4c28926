import ZoneGate.Http.Message
import ZoneGate.Text.Hex

/-!
# Messages on the wire

A message is a first line, header lines, an empty line and a body. The headers tell where the body
ends: after a number of bytes, after the last chunk or, where they do not say, with the connection.
Each connection carries one request and its answer. The main statements say that a written line is
read back, and that reading a line always leaves less to read.
-/
namespace ZoneGate.Http.Wire

open Text

/-- What can be made of the bytes that have arrived so far. -/
inductive Arrival (α : Type) where
  | incomplete
  | malformed
  | complete (value : α)

namespace Arrival

def bind {α β : Type} (a : Arrival α) (f : α → Arrival β) : Arrival β :=
  match a with
  | incomplete => incomplete
  | malformed => malformed
  | complete value => f value

def ofOption {α : Type} : Option α → Arrival α
  | none => malformed
  | some value => complete value

end Arrival

def carriageReturn : UInt8 := 13

def lineFeed : UInt8 := 10

/-- A line without its end, and what comes after it. -/
def line? (input : List UInt8) : Option (List UInt8 × List UInt8) :=
  match input.dropWhile (· ≠ lineFeed) with
  | [] => none
  | _ :: rest =>
    let line := input.takeWhile (· ≠ lineFeed)
    some (if line.getLast? = some carriageReturn then line.dropLast else line, rest)

theorem length_lt_of_line? {input line rest : List UInt8} (h : line? input = some (line, rest)) :
    rest.length < input.length := by
  unfold line? at h
  split at h
  · simp at h
  · next b rest' heq =>
    have hlen := congrArg List.length
      (List.takeWhile_append_dropWhile (p := (· ≠ lineFeed)) (l := input))
    simp only [Option.some.injEq, Prod.mk.injEq] at h
    rw [heq, List.length_append, List.length_cons] at hlen
    rw [← h.2]
    omega

/-- The end of a line. -/
def newLine : List UInt8 := [carriageReturn, lineFeed]

theorem line?_append_newLine {line : List UInt8} (h : lineFeed ∉ line) (rest : List UInt8) :
    line? (line ++ newLine ++ rest) = some (line, rest) := by
  have hpos : ∀ b ∈ line ++ [carriageReturn], decide (b ≠ lineFeed) = true := by
    intro b hb
    rw [List.mem_append, List.mem_singleton] at hb
    rcases hb with hb | rfl
    · exact decide_eq_true fun e => h (e ▸ hb)
    · decide
  have hcut : line ++ newLine ++ rest = (line ++ [carriageReturn]) ++ (lineFeed :: rest) := by
    simp [newLine]
  unfold line?
  rw [hcut, List.dropWhile_append_of_pos hpos, List.takeWhile_append_of_pos hpos]
  simp

def isBlank (b : UInt8) : Bool := b = byte ' ' || b = byte '\t'

/-- A value without the blanks around it. -/
def trimmed (value : List UInt8) : List UInt8 :=
  ((value.dropWhile isBlank).reverse.dropWhile isBlank).reverse

/-- A header line: a name, a colon and a value. -/
def header? (line : List UInt8) : Option Header := do
  let name ← ofBytes? (line.takeWhile (· ≠ byte ':'))
  match line.dropWhile (· ≠ byte ':') with
  | [] => failure
  | _ :: value => Header.of? name (trimmed value)

/-- The header lines up to the empty line, and what comes after it. -/
def headers (input : List UInt8) : Arrival (List Header × List UInt8) :=
  match _h : line? input with
  | none => .incomplete
  | some ([], rest) => .complete ([], rest)
  | some (line, rest) =>
    (Arrival.ofOption (header? line)).bind fun header =>
      (headers rest).bind fun (more, body) => .complete (header :: more, body)
termination_by input.length
decreasing_by exact length_lt_of_line? _h

/-- Where a body ends. -/
inductive Framing where
  | length (n : Nat)
  | chunked
  | withConnection
  deriving DecidableEq

/-- Where the headers say that the body ends, unless they contradict each other. -/
def framing? (headers : List Header) (otherwise : Framing) : Option Framing :=
  let values (name : String) : List (List UInt8) :=
    (headers.filter fun h => h.name = name).map (·.value)
  match values "transfer-encoding", values "content-length" with
  | [], [] => some otherwise
  | [], length :: more =>
    if more.all (· = length) then (decimal? length).map .length else none
  | [encoding], [] => if encoding.map lower = bytes "chunked" then some .chunked else none
  | _, _ => none

/-- The size in the first line of a chunk. Anything after a semicolon does not matter. -/
def chunkSize? (line : List UInt8) : Option Nat :=
  let digits := trimmed (line.takeWhile (· ≠ byte ';'))
  if digits.isEmpty then none
  else digits.foldlM (fun n b => (Hex.digit? b).map fun d => 16 * n + d) 0

/-- What chunks hold as far as they have arrived, and whether that is all. -/
def chunks (input : List UInt8) : List UInt8 × Arrival Unit :=
  match _h : line? input with
  | none => ([], .incomplete)
  | some (line, rest) =>
    match chunkSize? line with
    | none => ([], .malformed)
    | some 0 => ([], (headers rest).bind fun _ => .complete ())
    | some n =>
      match _hend : line? (rest.drop n) with
      | none => (rest.take n, .incomplete)
      | some ([], after) =>
        let (more, state) := chunks after
        (rest.take n ++ more, state)
      | some _ => (rest.take n, .malformed)
termination_by input.length
decreasing_by
  have h1 := length_lt_of_line? _h
  have h2 := length_lt_of_line? _hend
  have h3 := List.length_drop (i := n) (l := rest)
  omega

/-- The body at the front of what has arrived. No more is read than a given number of bytes, which
counts as complete. -/
def body (framing : Framing) (limit : Nat) (ended : Bool) (input : List UInt8) :
    Arrival (List UInt8) :=
  match framing with
  | .length n =>
    if min n limit ≤ input.length then .complete (input.take (min n limit)) else .incomplete
  | .withConnection =>
    if ended || limit ≤ input.length then .complete (input.take limit) else .incomplete
  | .chunked =>
    let (content, state) := chunks input
    if limit ≤ content.length then .complete (content.take limit)
    else state.bind fun () => .complete content

/-- The method and target of a request's first line. -/
def requestLine? (line : List UInt8) : Option (Method × Target) :=
  match splitAt (byte ' ') line with
  | [method, target, version] => do
    if version ≠ bytes "HTTP/1.1" && version ≠ bytes "HTTP/1.0" then failure
    return (← Method.ofText? (← ofBytes? method), ← Target.parse? (← ofBytes? target))
  | _ => none

/-- A request whose body is read up to a limit. -/
def request (limit : Nat) (input : List UInt8) : Arrival Request :=
  match line? input with
  | none => .incomplete
  | some (first, rest) =>
    (Arrival.ofOption (requestLine? first)).bind fun (method, target) =>
      (headers rest).bind fun (headers, rest) =>
        (Arrival.ofOption (framing? headers (.length 0))).bind fun framing =>
          (body framing limit false rest).bind fun body =>
            .complete ⟨method, target, headers, body⟩

def headerLine (name : String) (value : List UInt8) : List UInt8 :=
  bytes name ++ bytes ": " ++ value ++ newLine

/-- A message of given parts. -/
def message (first : String) (headers : List (String × List UInt8)) (body : List UInt8) :
    List UInt8 :=
  bytes first ++ newLine ++ headers.flatMap (fun h => headerLine h.1 h.2) ++ newLine ++ body

/-- Whether an answer is without a body whatever its headers say. -/
def isBodiless (asked : Method) (status : Nat) : Bool :=
  asked = .head || status < 200 || status = 204 || status = 304

/-- The answer to a request of a given method. -/
def answer (asked : Method) (r : Response) : List UInt8 :=
  let optional (name : String) (value : Option (List UInt8)) : List (String × List UInt8) :=
    value.toList.map fun value => (name, value)
  let length : List (String × List UInt8) :=
    if isBodiless asked r.status then []
    else [("content-length", bytes (toString r.body.length))]
  message ("HTTP/1.1 " ++ toString r.status ++ " ")
    (optional "content-type" r.contentType ++ optional "allow" (r.allow.map bytes) ++
      [("x-request-id", bytes r.requestId)] ++ length ++ [("connection", bytes "close")])
    (if isBodiless asked r.status then [] else r.body)

/-- The answer to something that is no request. -/
def refusal : List UInt8 :=
  message "HTTP/1.1 400 "
    [("content-length", bytes "0"), ("connection", bytes "close")] []

end ZoneGate.Http.Wire
