import TripProposal.Text.CodePoint

/-!
# Searching and cutting text

Texts are lists of characters here, so that positions count characters and every search is a
recursion on the text. `find?` gives the first position of a pattern, `cut?` the two sides of its
first occurrence, `splitOn` and `replaceAll` walk over all occurrences from the left without
overlap.
-/

namespace TripProposal.Text

/-- The first position at which `pattern` occurs. -/
def find? (pattern : List CodePoint) : List CodePoint → Option Nat
  | [] => if pattern.isEmpty then some 0 else none
  | c :: rest =>
    if pattern.isPrefixOf (c :: rest) then some 0 else (find? pattern rest).map (· + 1)

/-- Whether `pattern` occurs in the text. -/
def holds (pattern text : List CodePoint) : Bool :=
  (find? pattern text).isSome

/-- What stands before and after the first occurrence of `pattern`. -/
def cut? (pattern : List CodePoint) : List CodePoint → Option (List CodePoint × List CodePoint)
  | [] => if pattern.isEmpty then some ([], []) else none
  | c :: rest =>
    match pattern.isPrefixOf? (c :: rest) with
    | some after => some ([], after)
    | none => (cut? pattern rest).map fun (before, after) => (c :: before, after)

/-! ### Cutting -/

theorem isPrefixOf?_eq_some_append {pattern text after : List CodePoint}
    (h : pattern.isPrefixOf? text = some after) : text = pattern ++ after := by
  induction pattern generalizing text with
  | nil => exact Option.some.inj h
  | cons p ps ih =>
    cases text with
    | nil =>
      have h : none = some after := h
      simp at h
    | cons c rest =>
      have h : (if p == c then ps.isPrefixOf? rest else none) = some after := h
      split at h
      · next hc => rw [List.cons_append, ← ih h, ← eq_of_beq hc]
      · simp at h

theorem cut?_eq_some_append {pattern text before after : List CodePoint}
    (h : cut? pattern text = some (before, after)) : text = before ++ pattern ++ after := by
  induction text generalizing before with
  | nil =>
    simp only [cut?] at h
    split at h
    · next he =>
      simp only [Option.some.injEq, Prod.mk.injEq] at h
      simp [← h.1, ← h.2, List.isEmpty_iff.mp he]
    · simp at h
  | cons c rest ih =>
    simp only [cut?] at h
    split at h
    · next r hr =>
      simp only [Option.some.injEq, Prod.mk.injEq] at h
      rw [← h.1, ← h.2]
      exact isPrefixOf?_eq_some_append hr
    · simp only [Option.map_eq_some_iff] at h
      obtain ⟨⟨b, a⟩, hb, heq⟩ := h
      obtain ⟨rfl, rfl⟩ := Prod.mk.injEq .. ▸ heq
      rw [ih hb]
      rfl

/-- What stands before and after the first `mark`; without one, the whole text and nothing. -/
def cutAt (mark : CodePoint) : List CodePoint → List CodePoint × List CodePoint
  | [] => ([], [])
  | c :: rest => if c = mark then ([], rest) else (c :: (cutAt mark rest).1, (cutAt mark rest).2)

/-- The text after the last `mark`, all of it when there is none. -/
def afterLast (mark : CodePoint) (text : List CodePoint) : List CodePoint :=
  (text.reverse.takeWhile (· ≠ mark)).reverse

/-- The pieces between the marks: always one more than there are marks. -/
def splitAtMark (mark : CodePoint) : List CodePoint → List (List CodePoint)
  | [] => [[]]
  | c :: rest =>
    if c = mark then [] :: splitAtMark mark rest
    else
      match splitAtMark mark rest with
      | piece :: pieces => (c :: piece) :: pieces
      | [] => [[c]]

/-- The pieces between the occurrences of `sep`, the next `skip` characters being passed over. -/
def splitFrom (sep : List CodePoint) : Nat → List CodePoint → List (List CodePoint)
  | _, [] => [[]]
  | skip + 1, _ :: rest => splitFrom sep skip rest
  | 0, c :: rest =>
    if sep.isPrefixOf (c :: rest) then [] :: splitFrom sep (sep.length - 1) rest
    else
      match splitFrom sep 0 rest with
      | piece :: pieces => (c :: piece) :: pieces
      | [] => [[c]]

/-- The pieces between the occurrences of a non-empty `sep`. -/
def splitOn (sep text : List CodePoint) : List (List CodePoint) :=
  splitFrom sep 0 text

/-- The text with every occurrence of `pattern` replaced, the next `skip` characters being
passed over. -/
def replaceFrom (pattern replacement : List CodePoint) : Nat → List CodePoint → List CodePoint
  | _, [] => []
  | skip + 1, _ :: rest => replaceFrom pattern replacement skip rest
  | 0, c :: rest =>
    if pattern.isPrefixOf (c :: rest) then
      replacement ++ replaceFrom pattern replacement (pattern.length - 1) rest
    else c :: replaceFrom pattern replacement 0 rest

/-- The text with every occurrence of a non-empty `pattern` replaced. -/
def replaceAll (pattern replacement text : List CodePoint) : List CodePoint :=
  replaceFrom pattern replacement 0 text

/-- The text with `fill` added on the left up to a width. -/
def padLeft (width : Nat) (fill : CodePoint) (text : List CodePoint) : List CodePoint :=
  List.replicate (width - text.length) fill ++ text

/-- The text with `fill` added on the right up to a width. -/
def padRight (width : Nat) (fill : CodePoint) (text : List CodePoint) : List CodePoint :=
  text ++ List.replicate (width - text.length) fill

/-- The decimal digits of a natural number. -/
def decimal (n : Nat) : List CodePoint :=
  (Nat.toDigits 10 n).map .char

/-- The decimal digits of a natural number, with zeros on the left up to a width. -/
def decimalPadded (width n : Nat) : List CodePoint :=
  padLeft width '0' (decimal n)

/-- The text with every carriage return, alone or before a line feed, read as a line feed. -/
def unifyNewlines : List CodePoint → List CodePoint
  | [] => []
  | '\r' :: '\n' :: rest => '\n' :: unifyNewlines rest
  | '\r' :: rest => '\n' :: unifyNewlines rest
  | c :: rest => c :: unifyNewlines rest

/-- The order of texts by code points. -/
def precedes : List CodePoint → List CodePoint → Bool
  | [], _ => true
  | _ :: _, [] => false
  | a :: as, b :: bs => a.toNat < b.toNat || (a == b && precedes as bs)

/-- The text of a natural number. -/
def ofNat (n : Nat) : Text :=
  ofList (decimal n)

/-- A text function applied to a string. -/
def onString (f : List CodePoint → List CodePoint) (s : Text) : Text :=
  Text.ofList (f s.toList)

end TripProposal.Text
