import TripProposal.Number.Reading
import TripProposal.Text.Hex
import TripProposal.Value.Basic

/-!
# Reading JSON text

A strict reader of JSON: raw control characters inside quotes, leading zeros, trailing commas and
anything after the value are refused. Beyond the standard it takes `NaN`, `Infinity` and
`-Infinity`; of a repeated key the first place and the last value stay; a whole number may have
4300 digits at most. The recursion is bounded by a count that the length of the text covers.
-/

namespace TripProposal.Value

open Text Number

/-- Whether a character may stand between the tokens of JSON text. -/
def isJsonSpace (c : CodePoint) : Bool :=
  c == ' ' || c == '\t' || c == '\n' || c == '\r'

/-- The text after the spaces in front of it. -/
def skipSpaces (cs : List CodePoint) : List CodePoint :=
  cs.dropWhile isJsonSpace

/-! ### Quoted text -/

/-- Four hexadecimal digits as a code unit. -/
def codeUnit? : List CodePoint → Option (Nat × List CodePoint)
  | a :: b :: c :: d :: rest =>
    match hexValue? a, hexValue? b, hexValue? c, hexValue? d with
    | some a, some b, some c, some d => some (a * 4096 + b * 256 + c * 16 + d, rest)
    | _, _, _, _ => none
  | _ => none

/-- The code point of a `\u` escape: a pair of surrogates stands for one character, any other unit
for the code point of its number. -/
def unicodeEscape? (cs : List CodePoint) : Option (CodePoint × List CodePoint) :=
  match codeUnit? cs with
  | none => none
  | some (high, rest) =>
    if 0xD800 ≤ high ∧ high ≤ 0xDBFF then
      match rest with
      | '\\' :: 'u' :: more =>
        match codeUnit? more with
        | some (low, rest') =>
          if 0xDC00 ≤ low ∧ low ≤ 0xDFFF then
            some (CodePoint.ofNat (0x10000 + (high - 0xD800) * 0x400 + (low - 0xDC00)), rest')
          else some (CodePoint.ofNat high, rest)
        | none => none
      | _ => some (CodePoint.ofNat high, rest)
    else some (CodePoint.ofNat high, rest)

/-- The character that a one-letter escape stands for. -/
def shortEscape? (c : CodePoint) : Option CodePoint :=
  match c with
  | '"' => some '"'
  | '\\' => some '\\'
  | '/' => some '/'
  | 'b' => some '\x08'
  | 'f' => some '\x0c'
  | 'n' => some '\n'
  | 'r' => some '\r'
  | 't' => some '\t'
  | _ => none

/-- The rest of a quoted text up to its closing quote. -/
def readQuoted : Nat → List CodePoint → Option (List CodePoint × List CodePoint)
  | 0, _ => none
  | _ + 1, [] => none
  | _ + 1, '"' :: rest => some ([], rest)
  | fuel + 1, '\\' :: 'u' :: rest =>
    match unicodeEscape? rest with
    | none => none
    | some (c, rest') => (readQuoted fuel rest').map fun (cs, after) => (c :: cs, after)
  | fuel + 1, '\\' :: e :: rest =>
    match shortEscape? e with
    | none => none
    | some c => (readQuoted fuel rest).map fun (cs, after) => (c :: cs, after)
  | _ + 1, ['\\'] => none
  | fuel + 1, c :: rest =>
    if c.toNat < 0x20 then none
    else (readQuoted fuel rest).map fun (cs, after) => (c :: cs, after)

/-! ### Numbers -/

/-- The ASCII digits that a text starts with, and what follows them. -/
def takeAsciiDigits (cs : List CodePoint) : List CodePoint × List CodePoint :=
  (cs.takeWhile CodePoint.isDigit, cs.dropWhile CodePoint.isDigit)

/-- The whole part of a number: a zero alone, or digits that start with another. -/
def wholePart? (cs : List CodePoint) : Option (List CodePoint × List CodePoint) :=
  match cs with
  | '0' :: rest => some (['0'], rest)
  | _ =>
    match takeAsciiDigits cs with
    | ([], _) => none
    | found => some found

/-- A point with digits, if the text starts with one. -/
def fractionPart (cs : List CodePoint) : List CodePoint × List CodePoint :=
  match cs with
  | '.' :: rest =>
    match takeAsciiDigits rest with
    | ([], _) => ([], cs)
    | found => found
  | _ => ([], cs)

/-- The value of a row of ASCII digits. -/
def digitsValue (digits : List CodePoint) : Nat :=
  digits.foldl (fun n c => 10 * n + (c.toNat - 48)) 0

/-- An exponent mark with its digits, if the text starts with a complete one. -/
def exponentPart? (cs : List CodePoint) : Option (Int × List CodePoint) :=
  match cs with
  | c :: rest =>
    if c = 'e' ∨ c = 'E' then
      match takeAsciiDigits (takeSign rest).2 with
      | ([], _) => none
      | (digits, after) =>
        some (if (takeSign rest).1 then -(digitsValue digits : Int) else digitsValue digits, after)
    else none
  | [] => none

/-- How many digits a whole number may have. -/
def maxDigits : Nat := 4300

/-- A number: whole without point and exponent, otherwise of double precision. -/
def readNumber (cs : List CodePoint) : Option (Value × List CodePoint) :=
  let (negative, start) := match cs with
    | '-' :: rest => (true, rest)
    | _ => (false, cs)
  match wholePart? start with
  | none => none
  | some (whole, rest) =>
    let (fraction, rest') := fractionPart rest
    match fraction, exponentPart? rest' with
    | [], none =>
      if maxDigits < whole.length then none
      else
        let n : Int := digitsValue whole
        some (.int (if negative then -n else n), rest')
    | fraction, found =>
      let (exponent, after) := found.getD (0, rest')
      some (.float (.ofDecimal negative (digitsValue (whole ++ fraction))
        (exponent - fraction.length)), after)

/-! ### Values -/

/-- The words of JSON text. -/
def words : List (List CodePoint × Value) :=
  [("null".codePoints, .null), ("true".codePoints, .bool true), ("false".codePoints, .bool false),
   ("NaN".codePoints, .float .nan), ("Infinity".codePoints, .float (.infinite false)),
   ("-Infinity".codePoints, .float (.infinite true))]

/-- A word that the text starts with. -/
def readWord (cs : List CodePoint) : Option (Value × List CodePoint) :=
  words.findSome? fun (word, v) => (word.isPrefixOf? cs).map fun rest => (v, rest)

mutual

/-- One value, which starts right here. -/
def readValue : Nat → List CodePoint → Option (Value × List CodePoint)
  | 0, _ => none
  | fuel + 1, '"' :: rest =>
    (readQuoted fuel rest).map fun (cs, after) => (.text (Text.ofList cs), after)
  | fuel + 1, '[' :: rest =>
    match skipSpaces rest with
    | ']' :: after => some (.list [], after)
    | inner => (readItems fuel inner).map fun (items, after) => (.list items, after)
  | fuel + 1, '{' :: rest =>
    match skipSpaces rest with
    | '}' :: after => some (.object [], after)
    | inner => (readMembers fuel inner).map fun (entries, after) =>
        (.object (Fields.ofEntries entries), after)
  | _ + 1, cs =>
    match readWord cs with
    | some found => some found
    | none => readNumber cs

/-- One item or more, up to the closing bracket. -/
def readItems : Nat → List CodePoint → Option (List Value × List CodePoint)
  | 0, _ => none
  | fuel + 1, cs =>
    match readValue fuel cs with
    | none => none
    | some (v, rest) =>
      match skipSpaces rest with
      | ']' :: after => some ([v], after)
      | ',' :: more =>
        (readItems fuel (skipSpaces more)).map fun (items, after) => (v :: items, after)
      | _ => none

/-- One member or more, up to the closing brace. -/
def readMembers : Nat → List CodePoint → Option (List (Text × Value) × List CodePoint)
  | 0, _ => none
  | fuel + 1, '"' :: rest =>
    match readQuoted fuel rest with
    | none => none
    | some (key, rest) =>
      match skipSpaces rest with
      | ':' :: more =>
        match readValue fuel (skipSpaces more) with
        | none => none
        | some (v, rest) =>
          match skipSpaces rest with
          | '}' :: after => some ([(Text.ofList key, v)], after)
          | ',' :: more =>
            (readMembers fuel (skipSpaces more)).map fun (entries, after) =>
              ((Text.ofList key, v) :: entries, after)
          | _ => none
      | _ => none
  | _ + 1, _ => none

end

/-- The value that a whole text spells. -/
def ofJson? (cs : List CodePoint) : Option Value :=
  match readValue (2 * cs.length + 2) (skipSpaces cs) with
  | some (v, rest) => if (skipSpaces rest).isEmpty then some v else none
  | none => none

/-- Whether a text is a list or an object in brackets or braces that reads as JSON. Prose that
only starts with a bracket is not. -/
def looksLikeJson (s : Text) : Bool :=
  let cs := trim s.toList
  let bracketed := cs.head? == some (.char '[') && cs.getLast? == some (.char ']')
  let braced := cs.head? == some (.char '{') && cs.getLast? == some (.char '}')
  (bracketed || braced) && (ofJson? cs).isSome

end TripProposal.Value
