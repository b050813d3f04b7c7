import TripProposal.Text.CodePoint

/-!
# Blank characters

Trimming and the space between words use one notion of a blank: the ASCII controls that move the
carriage, the four information separators, and every space or line separator of Unicode.
-/

namespace TripProposal.Text

/-- Whether a character is blank. -/
def isBlank (c : CodePoint) : Bool :=
  let n := c.toNat
  (9 ≤ n && n ≤ 13) || (28 ≤ n && n ≤ 32) || n == 0x85 || n == 0xA0 || n == 0x1680 ||
    (0x2000 ≤ n && n ≤ 0x200A) || n == 0x2028 || n == 0x2029 || n == 0x202F || n == 0x205F ||
    n == 0x3000

/-- The text without the blanks around it. -/
def trim (cs : List CodePoint) : List CodePoint :=
  ((cs.dropWhile isBlank).reverse.dropWhile isBlank).reverse

/-- Whether a text is empty or holds blanks only. -/
def isAllBlank (cs : List CodePoint) : Bool :=
  cs.all isBlank

/-- What follows the blanks that a text starts with; there has to be at least one. -/
def takeGap? (text : List CodePoint) : Option (List CodePoint) :=
  match text with
  | c :: rest => if isBlank c then some (rest.dropWhile isBlank) else none
  | [] => none

/-- The characters up to the first blank, and what follows them. -/
def takeWord (text : List CodePoint) : List CodePoint × List CodePoint :=
  (text.takeWhile (!isBlank ·), text.dropWhile (!isBlank ·))

end TripProposal.Text
