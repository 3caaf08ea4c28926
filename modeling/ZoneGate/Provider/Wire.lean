import ZoneGate.Http.Wire
import ZoneGate.Provider

/-!
# The provider on the wire

How a request for the provider is written, and how its answer is read.
-/
namespace ZoneGate.Provider

open Http Text

/-- The host to connect to, without the brackets around a version 6 address, and the port. -/
def place (u : Url) : String × Nat :=
  let cs := u.authority.toList
  let (host, digits) := match splitAt ']' cs with
    | [host, digits] => (host.drop 1, digits.drop 1)
    | _ => (cs.takeWhile (· ≠ ':'), (cs.dropWhile (· ≠ ':')).drop 1)
  let usual := if u.secure then 443 else 80
  (String.ofList host, if digits.isEmpty then usual else decimal (digits.map byte))

/-- A request as it is written. -/
def Sent.wire (s : Sent) : List UInt8 :=
  let contentType := s.contentType.toList.map fun value => ("content-type", value)
  Wire.message (s.method.name ++ " " ++ s.url.target ++ " HTTP/1.1")
    ([("host", bytes s.url.authority), ("accesskey", s.accountKey)] ++ contentType ++
      [("content-length", bytes (toString s.body.length)), ("connection", bytes "close")])
    s.body

/-- The status in an answer's first line. -/
def status? (line : List UInt8) : Option Nat :=
  match splitAt (byte ' ') line with
  | _ :: status :: _ => if status.length = 3 then decimal? status else none
  | _ => none

/-- What has arrived in answer to a request, perhaps up to the end of the connection. -/
def Sent.answer (s : Sent) (ended : Bool) (input : List UInt8) : Wire.Arrival Received :=
  match Wire.line? input with
  | none => .incomplete
  | some (first, rest) =>
    (Wire.Arrival.ofOption (status? first)).bind fun status =>
      (Wire.headers rest).bind fun (headers, rest) =>
        let framing : Option Wire.Framing :=
          if Wire.isBodiless s.method status then some (.length 0)
          else Wire.framing? headers .withConnection
        (Wire.Arrival.ofOption framing).bind fun framing =>
          (Wire.body framing UInt64.size ended rest).bind fun body =>
            .complete ⟨status, firstHeader? headers "content-type",
              (firstHeader? headers "location").bind ofBytes?, body⟩

end ZoneGate.Provider
