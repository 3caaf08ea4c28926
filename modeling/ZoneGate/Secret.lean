import ZoneGate.Crypto.Sha256
import ZoneGate.Json.Format

/-!
# Secrets

A secret is shown once, when its token is issued, and never kept. What is kept is its digest under
the service's hash key; logs show at most its last four characters.
-/
namespace ZoneGate

/-- The keyed digest of a secret. -/
structure Digest where
  bytes : List UInt8
  length_bytes : bytes.length = 32
  deriving DecidableEq

namespace Digest

def expected : String := "a hex encoded string"

/-- How a message words what is wrong with the text of a digest. -/
def reason : Text.Hex.Error → String
  | .oddLength => "Odd number of digits"
  | .wrongLength => "Invalid string length"
  | .badDigit b position =>
    "Invalid character " ++ Text.Quoted.char (Char.ofNat b.toNat) ++ " at position " ++
      toString position

def ofText (s : String) : Except String Digest :=
  match Text.Hex.decode 32 (Text.bytes s) with
  | .error e => .error (reason e)
  | .ok bytes => if h : bytes.length = 32 then .ok ⟨bytes, h⟩ else .error (reason .wrongLength)

def text (d : Digest) : String := Text.Hex.encode d.bytes

def format : Json.Format Digest := Json.Format.ofText expected ofText

def toJson (d : Digest) : Json.Value := .string d.text

/-- The digest of no known secret, which stands where a digest is left out. -/
def zero : Digest := ⟨List.replicate 32 0, by simp⟩

instance : Inhabited Digest := ⟨zero⟩

end Digest

/-- A way to digest secrets. -/
structure Hasher where
  digest : String → Digest

namespace Hasher

/-- The digests under a key. -/
def ofKey (key : String) : Hasher where
  digest secret := ⟨Crypto.hmac (Text.bytes key) (Text.bytes secret), Crypto.length_hmac _ _⟩

/-- What is shown of a hasher where values are dumped. -/
def debug : String := "SecretHasher(..)"

end Hasher

/-- What is shown of a digest where values are dumped. -/
def Digest.debug : String := "SecretDigest(..)"

namespace Secret

/-- A secret as logs show it: its last four characters, if it has eight at least. -/
def mask (secret : String) : String :=
  let cs := secret.toList
  if cs.length < 8 then "****" else "****" ++ String.ofList (cs.drop (cs.length - 4))

/-- The secret made of random bytes. -/
def ofRandom (bytes : List UInt8) : String := Text.Hex.encode bytes

/-- How many random bytes a secret takes. -/
def size : Nat := 32

end Secret

end ZoneGate
