import TripProposal.Proofs.Number.Readers
import TripProposal.Proofs.Number.Rounding
import TripProposal.Value.Read

/-!
# Numbers in JSON text

The reader of JSON text takes a number that was written as it is, whole or of double precision,
when something follows that does not go on with a number.
-/

namespace TripProposal.Value

open Text Number

variable {text whole behind fraction after rest digits : List CodePoint} {negative : Bool}

/-! ### Digits -/

lemma digitsValue_eq (digits : List CodePoint) :
    digitsValue digits = Number.digitsValue digits := by
  rw [Number.digitsValue, digitValues, valueOfDigits, List.foldl_map]
  rfl

/-- Digits are taken up to what is no digit. -/
lemma takeAsciiDigits_append (h : IsDigits digits) (hrest : ∀ c ∈ rest.head?, c.isDigit = false) :
    takeAsciiDigits (digits ++ rest) = (digits, rest) := by
  obtain ⟨hdigits, hrest⟩ := takeWhile_dropWhile_iff.mpr ⟨rfl, h, hrest⟩
  exact Prod.ext hdigits hrest

/-- The digits before the point are read. -/
lemma wholePart?_append (h : IsWhole whole) (hrest : ∀ c ∈ rest.head?, c.isDigit = false) :
    wholePart? (whole ++ rest) = some (whole, rest) := by
  obtain ⟨d, digits, rfl⟩ := List.exists_cons_of_ne_nil h.ne_nil
  rw [List.cons_append]
  unfold wholePart?
  split
  · next heq =>
    cases heq
    obtain ⟨-, rfl⟩ := List.cons.inj (h.zero rfl)
    rfl
  · rw [← List.cons_append, takeAsciiDigits_append h.digits hrest]

/-- The digits behind the point are read. -/
lemma fractionPart_append (h : IsDigits fraction) (hne : fraction ≠ [])
    (hrest : ∀ c ∈ rest.head?, c.isDigit = false) :
    fractionPart ('.' :: (fraction ++ rest)) = (fraction, rest) := by
  obtain ⟨d, digits, rfl⟩ := List.exists_cons_of_ne_nil hne
  rw [fractionPart, takeAsciiDigits_append h hrest]

lemma fractionPart_of_ne (h : ∀ c ∈ rest.head?, c ≠ '.') : fractionPart rest = ([], rest) := by
  unfold fractionPart
  split
  · exact absurd rfl (h '.' rfl)
  · rfl

lemma exponentPart?_of_stop (h : StopsNumeral rest) : exponentPart? rest = none := by
  cases rest with
  | nil => rfl
  | cons c rest => exact if_neg (h.exponent c rfl)

/-- A written exponent is read back. -/
lemma exponentPart?_exponentText (e : Int) (hrest : StopsNumeral rest) :
    exponentPart? (exponentText e ++ rest) = some (e, rest) := by
  have hdigits : IsDigits (decimalPadded 2 e.natAbs) := isDigits_decimalPadded 2 e.natAbs
  have hne : decimalPadded 2 e.natAbs ≠ [] := by
    simp [decimalPadded, padLeft, decimal, Nat.toDigits_ne_nil]
  have htake := takeAsciiDigits_append hdigits fun c hc =>
    not_isDigit_of_not_isDecimalDigit (hrest.digit c hc)
  have hsign : takeSign ((if e < 0 then '-' else '+') :: (decimalPadded 2 e.natAbs ++ rest)) =
      (decide (e < 0), decimalPadded 2 e.natAbs ++ rest) := by
    by_cases he : e < 0 <;> simp [he, takeSign]
  have hvalue : digitsValue (decimalPadded 2 e.natAbs) = e.natAbs := by
    rw [digitsValue_eq, digitsValue_decimalPadded]
  rw [exponentText, List.cons_append, List.cons_append, exponentPart?, if_pos (.inl rfl), hsign]
  dsimp only
  rw [htake]
  obtain ⟨d, digits, hcons⟩ := List.exists_cons_of_ne_nil hne
  rw [hcons] at hvalue ⊢
  dsimp only
  rw [hvalue]
  by_cases he : e < 0
  · simp [he, abs_of_neg he]
  · simp [he, abs_of_nonneg (not_lt.mp he)]

/-! ### Numbers -/

/-- A sign that was written is read back. -/
lemma sign_of_signed {sign : Bool} {start : List CodePoint} (hminus : text.head? ≠ some (.char '-'))
    (h : (match signed negative text with
      | '-' :: rest => (true, rest)
      | _ => (false, signed negative text)) = (sign, start)) : sign = negative ∧ start = text := by
  cases negative with
  | true =>
    cases h
    exact ⟨rfl, rfl⟩
  | false =>
    rw [signed, if_neg Bool.false_ne_true] at h
    split at h
    · exact absurd rfl hminus
    · cases h
      exact ⟨rfl, rfl⟩

/-- A number with a point or an exponent is of double precision. -/
lemma readNumber_float (hminus : text.head? ≠ some (.char '-'))
    (hwhole : wholePart? text = some (whole, behind))
    (hfraction : fractionPart behind = (fraction, after)) {found : Option (Int × List CodePoint)}
    (hexponent : exponentPart? after = found) (hfloat : fraction ≠ [] ∨ found.isSome) :
    readNumber (signed negative text) = some (.float (.ofDecimal negative
      (digitsValue (whole ++ fraction)) ((found.getD (0, after)).1 - fraction.length)),
      (found.getD (0, after)).2) := by
  unfold readNumber
  split
  next sign start hsign =>
  obtain ⟨rfl, rfl⟩ := sign_of_signed hminus hsign
  simp only [hwhole, hfraction, hexponent]
  split
  · simp at hfloat
  · rfl

/-- A number without point and exponent is whole. -/
lemma readNumber_whole (hminus : text.head? ≠ some (.char '-'))
    (hwhole : wholePart? text = some (whole, behind))
    (hfraction : fractionPart behind = ([], after))
    (hexponent : exponentPart? after = none) (hlength : whole.length ≤ maxDigits) :
    readNumber (signed negative text) =
      some (.int (if negative then -digitsValue whole else digitsValue whole), after) := by
  unfold readNumber
  split
  next sign start hsign =>
  obtain ⟨rfl, rfl⟩ := sign_of_signed hminus hsign
  simp only [hwhole, hfraction, hexponent, if_neg (Nat.not_lt.mpr hlength)]

lemma head?_of_isDigits (h : IsDigits digits) (hne : digits ≠ []) (rest : List CodePoint)
    {c : CodePoint} (hc : c.isDigit = false) : (digits ++ rest).head? ≠ some c := by
  obtain ⟨d, digits, rfl⟩ := List.exists_cons_of_ne_nil hne
  rintro ⟨⟩
  rw [(isDigits_cons.mp h).1] at hc
  cases hc

lemma signed_append (negative : Bool) (text rest : List CodePoint) :
    signed negative text ++ rest = signed negative (text ++ rest) := by
  cases negative with
  | true => rfl
  | false => rfl

/-- What is written for a number is read to its end, as the decimal that it stands for. -/
lemma readNumber_of_isPrinted {q : ℚ} (h : IsPrinted text q) (hrest : StopsNumeral rest) :
    ∃ (coefficient : Nat) (e : Int), (coefficient : ℚ) * 10 ^ e = q ∧
      readNumber (signed negative text ++ rest) =
        some (.float (.ofDecimal negative coefficient e), rest) := by
  have hstop : ∀ c ∈ rest.head?, c.isDigit = false :=
    fun c hc => not_isDigit_of_not_isDecimalDigit (hrest.digit c hc)
  rw [signed_append]
  -- The three printed forms, with a point, an exponent, or both.
  cases h with
  | @point whole fraction hwhole hfraction hne =>
    refine ⟨_, _, rfl, ?_⟩
    rw [List.append_assoc, List.cons_append, ← digitsValue_eq, ← zero_sub]
    exact readNumber_float (head?_of_isDigits hwhole.digits hwhole.ne_nil _ rfl)
      (wholePart?_append hwhole (by rintro c ⟨⟩; rfl))
      (fractionPart_append hfraction hne hstop) (exponentPart?_of_stop hrest) (.inl hne)
  | @exponent whole hwhole e =>
    refine ⟨_, _, rfl, ?_⟩
    have hmark : ∀ c ∈ (exponentText e ++ rest).head?, c = 'e' := by
      rintro c ⟨⟩
      rfl
    have hread : readNumber (signed negative (whole ++ (exponentText e ++ rest))) = _ :=
      readNumber_float (head?_of_isDigits hwhole.digits hwhole.ne_nil _ rfl)
      (wholePart?_append hwhole fun c hc => hmark c hc ▸ rfl)
      (fractionPart_of_ne fun c hc => hmark c hc ▸ by decide)
      (exponentPart?_exponentText e hrest) (.inr rfl)
    rw [List.append_nil, List.length_nil, Nat.cast_zero, Option.getD_some, sub_zero,
      digitsValue_eq] at hread
    rwa [List.append_assoc]
  | @scientific whole fraction hwhole hfraction hne e =>
    refine ⟨_, _, rfl, ?_⟩
    have hbehind : ∀ c ∈ (exponentText e ++ rest).head?, c.isDigit = false := by
      rintro c ⟨⟩
      rfl
    rw [List.append_assoc, List.cons_append, List.append_assoc, ← digitsValue_eq]
    exact readNumber_float (head?_of_isDigits hwhole.digits hwhole.ne_nil _ rfl)
      (wholePart?_append hwhole (by rintro c ⟨⟩; rfl))
      (fractionPart_append hfraction hne hbehind) (exponentPart?_exponentText e hrest) (.inl hne)

/-- A finite number reads back. -/
lemma readNumber_scriptText (negative : Bool) (size : Magnitude) (hrest : StopsNumeral rest) :
    readNumber ((Binary64.finite negative size).scriptText ++ rest) =
      some (.float (.finite negative size), rest) := by
  obtain ⟨coefficient, e, hvalue, hread⟩ :=
    readNumber_of_isPrinted (isPrinted_magnitudeText size) hrest
  rw [ofDecimal_of_spelled hvalue] at hread
  exact hread

/-- A decimal has no needless zero in front. -/
lemma isWhole_decimal (n : Nat) : IsWhole (decimal n) := by
  refine ⟨isDigits_decimal n, decimal_ne_nil n, ?_⟩
  intro hhead
  rw [eq_zero_of_head?_decimal n hhead]
  rfl

/-- A whole number reads back when it does not have too many digits. -/
lemma readNumber_intText {n : Int} (h : (decimal n.natAbs).length ≤ maxDigits)
    (hrest : StopsNumeral rest) : readNumber (intText n ++ rest) = some (.int n, rest) := by
  have hwhole := isWhole_decimal n.natAbs
  rw [intText, signed_append, readNumber_whole
    (head?_of_isDigits hwhole.digits hwhole.ne_nil _ rfl)
    (wholePart?_append hwhole fun c hc => not_isDigit_of_not_isDecimalDigit (hrest.digit c hc))
    (fractionPart_of_ne hrest.point) (exponentPart?_of_stop hrest) h, digitsValue_eq,
    digitsValue_decimal]
  by_cases hn : n < 0
  · simp [hn, abs_of_neg hn]
  · simp [hn, abs_of_nonneg (not_lt.mp hn)]

end TripProposal.Value
