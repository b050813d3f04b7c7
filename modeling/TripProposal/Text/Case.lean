import TripProposal.Text.CaseTable

/-!
# Case conversion

Full Unicode case mapping without a locale. Lowering a text looks at the context of a capital
sigma only: at the end of a word it becomes `ς`, elsewhere `σ`.
-/

namespace TripProposal.Text

/-- The capital form of a character, a sequence for some letters (`ß` gives `SS`). -/
def upperOf (c : CodePoint) : List CodePoint :=
  match upperSequences.find? (·.1 == c.toNat) with
  | some (_, codes) => codes.map CodePoint.ofNat
  | none => [shiftCase upperRuns c]

/-- The text with its first character capitalised and the rest untouched. -/
def capitalizeFirst : List CodePoint → List CodePoint
  | [] => []
  | c :: rest => upperOf c ++ rest

/-- Whether a character is a cased letter. -/
def isCased (c : CodePoint) : Bool :=
  inTable casedTable c.toNat

/-- Whether case rules look past a character. -/
def isCaseIgnorable (c : CodePoint) : Bool :=
  inTable caseIgnorableTable c.toNat

/-- Whether the first character that case rules do not look past is a cased letter. -/
def meetsCased (cs : List CodePoint) : Bool :=
  match cs.dropWhile isCaseIgnorable with
  | [] => false
  | c :: _ => isCased c

/-- The small form of a character between `before` (nearest first) and `after`. -/
def lowerOf (before : List CodePoint) (c : CodePoint) (after : List CodePoint) : List CodePoint :=
  if c.toNat < 128 then
    [if 65 ≤ c.toNat ∧ c.toNat ≤ 90 then CodePoint.ofNat (c.toNat + 32) else c]
  else if c = 'Σ' then
    [if meetsCased before && !meetsCased after then 'ς' else 'σ']
  else if c = 'İ' then ['i', CodePoint.ofNat 0x307]
  else [shiftCase lowerRuns c]

/-- The small form of a text whose characters so far, nearest first, are `before`. -/
def lowerFrom (before : List CodePoint) : List CodePoint → List CodePoint
  | [] => []
  | c :: rest => lowerOf before c rest ++ lowerFrom (c :: before) rest

/-- The small form of a text. -/
def lower (cs : List CodePoint) : List CodePoint :=
  lowerFrom [] cs

end TripProposal.Text
