import TripProposal.Text.Hex
import TripProposal.Text.Utf8

/-!
# Percent encoding

A text is encoded by leaving the safe characters alone and writing every byte of the others as
`%` with two hexadecimal digits. Decoding undoes escapes within each stretch of ASCII characters
and reads the bytes as UTF-8; characters beyond ASCII stand for themselves.
-/

namespace TripProposal.Url

open Text

/-- The escape of a byte. -/
def escapeByte (b : Nat) : List CodePoint :=
  ['%', upperHexDigit (b / 16), upperHexDigit (b % 16)]

/-- The characters that never need an escape. -/
def isUnreserved (c : CodePoint) : Bool :=
  c.isAlphanum || c == '_' || c == '.' || c == '-' || c == '~'

/-- The characters that stay as they are in a component inserted by a template. -/
def isComponentSafe (c : CodePoint) : Bool :=
  isUnreserved c || "!*'()".codePoints.contains c

/-- The form of one character. -/
def encodeChar (safe : CodePoint → Bool) (c : CodePoint) : List CodePoint :=
  if safe c then [c] else (utf8Bytes c).flatMap escapeByte

/-- The escaped form of a text of characters. -/
def escaped (safe : CodePoint → Bool) (text : List CodePoint) : List CodePoint :=
  text.flatMap (encodeChar safe)

/-- A text with everything but safe characters escaped. Surrogates have no bytes. -/
def percentEncode (safe : CodePoint → Bool) (text : List CodePoint) :
    Except NotEncodable (List CodePoint) :=
  if text.all CodePoint.isChar then .ok (escaped safe text) else .error ⟨text⟩

/-- Decode a text, `pending` being the bytes of the current ASCII stretch, last one first. -/
def decodeFrom (pending : List Nat) : List CodePoint → List CodePoint
  | [] => decodeUtf8 pending.reverse
  | '%' :: a :: b :: rest =>
    match hexValue? a, hexValue? b with
    | some high, some low => decodeFrom ((high * 16 + low) :: pending) rest
    | _, _ => decodeFrom (37 :: pending) (a :: b :: rest)
  | c :: rest =>
    if c.toNat < 128 then decodeFrom (c.toNat :: pending) rest
    else decodeUtf8 pending.reverse ++ c :: decodeFrom [] rest
termination_by text => text.length

/-- A text with its escapes undone. -/
def percentDecode (text : List CodePoint) : List CodePoint :=
  decodeFrom [] text

end TripProposal.Url
