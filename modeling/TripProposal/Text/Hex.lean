import TripProposal.Text.Search

/-!
# Hexadecimal digits

Escapes of every kind name characters and bytes in hexadecimal. Readers take digits in either
letter case; writers choose small letters in text and capitals in URLs.
-/

namespace TripProposal.Text

/-- The value of a hexadecimal digit. -/
def hexValue? (c : CodePoint) : Option Nat :=
  if '0' ≤ c ∧ c ≤ '9' then some (c.toNat - 48)
  else if 'a' ≤ c ∧ c ≤ 'f' then some (c.toNat - 87)
  else if 'A' ≤ c ∧ c ≤ 'F' then some (c.toNat - 55)
  else none

/-- Whether a character is a hexadecimal digit. -/
def isHexDigit (c : CodePoint) : Bool :=
  (hexValue? c).isSome

/-- A digit below sixteen, in small letters. -/
def hexDigit (n : Nat) : CodePoint :=
  Nat.digitChar n

/-- A digit below sixteen, in capital letters. -/
def upperHexDigit (n : Nat) : CodePoint :=
  if n < 10 then CodePoint.ofNat (48 + n) else CodePoint.ofNat (55 + n)

/-- The digits of a number in small letters, with zeros on the left up to a width. -/
def hexPadded (width n : Nat) : List CodePoint :=
  padLeft width '0' ((Nat.toDigits 16 n).map .char)

end TripProposal.Text
