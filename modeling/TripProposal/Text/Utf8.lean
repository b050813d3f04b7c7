import TripProposal.Text.CodePoint

/-!
# UTF-8

Percent escapes stand for the UTF-8 bytes of a text. Only texts of characters have bytes. Decoding
reads damaged input too: a byte that cannot start or continue a character, together with the valid
bytes that lead up to it, becomes one replacement character `U+FFFD`.
-/

namespace TripProposal.Text

/-- The UTF-8 bytes of a code point that is a character. -/
def utf8Bytes (c : CodePoint) : List Nat :=
  let n := c.toNat
  if n < 0x80 then [n]
  else if n < 0x800 then [0xC0 + n / 0x40, 0x80 + n % 0x40]
  else if n < 0x10000 then [0xE0 + n / 0x1000, 0x80 + n / 0x40 % 0x40, 0x80 + n % 0x40]
  else [0xF0 + n / 0x40000, 0x80 + n / 0x1000 % 0x40, 0x80 + n / 0x40 % 0x40, 0x80 + n % 0x40]

/-- A text that has no bytes, because a surrogate is in it. -/
structure NotEncodable where
  text : List CodePoint
deriving DecidableEq

/-- The character shown for damaged bytes. -/
def replacementChar : CodePoint := CodePoint.ofNat 0xFFFD

/-- What a lead byte announces: the bits it carries, how many bytes follow, and the bounds of the
first of them. -/
structure Lead where
  bits : Nat
  follow : Nat
  least : Nat
  greatest : Nat

/-- The announcement of a lead byte, none for a byte that cannot start a character. -/
def leadOf? (b : Nat) : Option Lead :=
  if b < 0x80 then some ⟨b, 0, 0x80, 0xBF⟩
  else if 0xC2 ≤ b ∧ b ≤ 0xDF then some ⟨b - 0xC0, 1, 0x80, 0xBF⟩
  else if b = 0xE0 then some ⟨0, 2, 0xA0, 0xBF⟩
  else if b = 0xED then some ⟨0xD, 2, 0x80, 0x9F⟩
  else if 0xE1 ≤ b ∧ b ≤ 0xEF then some ⟨b - 0xE0, 2, 0x80, 0xBF⟩
  else if b = 0xF0 then some ⟨0, 3, 0x90, 0xBF⟩
  else if b = 0xF4 then some ⟨4, 3, 0x80, 0x8F⟩
  else if 0xF1 ≤ b ∧ b ≤ 0xF3 then some ⟨b - 0xF0, 3, 0x80, 0xBF⟩
  else none

/-- Decode bytes, damaged stretches becoming replacement characters. `pending` is the character
under way: the bits read so far, the bytes still owed and the bounds of the next one. -/
def decodeFrom : Option Lead → List Nat → List CodePoint
  | none, [] => []
  | some _, [] => [replacementChar]
  | none, b :: rest =>
    match leadOf? b with
    | none => replacementChar :: decodeFrom none rest
    | some lead =>
      if lead.follow = 0 then CodePoint.ofNat lead.bits :: decodeFrom none rest
      else decodeFrom (some lead) rest
  | some pending, b :: rest =>
    if pending.least ≤ b ∧ b ≤ pending.greatest then
      let bits := pending.bits * 0x40 + (b - 0x80)
      if pending.follow ≤ 1 then CodePoint.ofNat bits :: decodeFrom none rest
      else decodeFrom (some ⟨bits, pending.follow - 1, 0x80, 0xBF⟩) rest
    else
      match leadOf? b with
      | none => replacementChar :: replacementChar :: decodeFrom none rest
      | some lead =>
        replacementChar ::
          (if lead.follow = 0 then CodePoint.ofNat lead.bits :: decodeFrom none rest
           else decodeFrom (some lead) rest)

/-- Decode UTF-8 bytes. -/
def decodeUtf8 (bytes : List Nat) : List CodePoint :=
  decodeFrom none bytes

end TripProposal.Text
