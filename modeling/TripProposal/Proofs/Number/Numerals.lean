import Mathlib.Algebra.Order.Field.Rat
import Mathlib.Tactic.FieldSimp
import Mathlib.Tactic.Ring
import TripProposal.Number.Reading
import TripProposal.Number.Shortest

/-!
# What numerals spell

A numeral spells a rational number, which is exact where the nearest binary number is not. The
digits that a number is written with are read back here, with and without point and exponent.
-/

namespace TripProposal.Number

open Text

/-- The rational number that a numeral stands for. -/
def Numeral.toRat (n : Numeral) : ℚ :=
  (if n.negative then -1 else 1) * valueOfDigits 0 (n.whole ++ n.fraction) *
    10 ^ (n.exponent - n.fraction.length)

/-- Whether a text is a numeral that stands for a rational number. -/
def Spells (text : List CodePoint) (q : ℚ) : Prop :=
  ∃ n, takeNumeral? text = some (n, []) ∧ n.toRat = q

/-- Whether a text without a sign is a numeral that stands for a rational number. -/
def SpellsUnsigned (text : List CodePoint) (q : ℚ) : Prop :=
  takeSign text = (false, text) ∧ Spells text q

/-! ### Digits -/

/-- Whether a text consists of the digits from `0` to `9`. -/
def IsDigits (text : List CodePoint) : Prop := ∀ c ∈ text, c.isDigit = true

instance (text : List CodePoint) : Decidable (IsDigits text) :=
  decidable_of_iff (text.all CodePoint.isDigit = true) List.all_eq_true

/-- The values of digits. -/
def digitValues (digits : List CodePoint) : List Nat := digits.map fun c => c.toNat - '0'.toNat

/-- The number that digits stand for. -/
def digitsValue (digits : List CodePoint) : Nat := valueOfDigits 0 (digitValues digits)

section Digits

variable {a b digits : List CodePoint} {c : CodePoint}

@[simp] lemma isDigits_nil : IsDigits [] := by simp [IsDigits]

@[simp] lemma isDigits_cons : IsDigits (c :: a) ↔ c.isDigit = true ∧ IsDigits a := by
  simp [IsDigits]

@[simp] lemma isDigits_append : IsDigits (a ++ b) ↔ IsDigits a ∧ IsDigits b := by
  simp only [IsDigits, List.mem_append]
  exact ⟨fun h => ⟨fun c hc => h c (.inl hc), fun c hc => h c (.inr hc)⟩,
    fun h c hc => hc.elim (h.1 c) (h.2 c)⟩

@[simp] lemma isDigits_replicate_zero (n : Nat) : IsDigits (List.replicate n '0') := by
  intro c hc
  rw [List.eq_of_mem_replicate hc]
  rfl

@[simp] lemma isDigits_decimal (n : Nat) : IsDigits (decimal n) := by
  intro c hc
  obtain ⟨d, hd, rfl⟩ := List.mem_map.mp hc
  rw [CodePoint.isDigit_char]
  exact Nat.isDigit_of_mem_toDigits (by decide) (by decide) hd

@[simp] lemma decimal_ne_nil (n : Nat) : decimal n ≠ [] := by
  rw [decimal, Ne, List.map_eq_nil_iff]
  exact Nat.toDigits_ne_nil

lemma length_decimal (n : Nat) : (decimal n).length = (Nat.toDigits 10 n).length :=
  List.length_map _

@[simp] lemma digitsValue_nil : digitsValue [] = 0 := rfl

/-- What is read so far is worth a power of ten for each digit behind it. -/
lemma valueOfDigits_eq (acc : Nat) (places : List Nat) :
    valueOfDigits acc places = acc * 10 ^ places.length + valueOfDigits 0 places := by
  induction places generalizing acc with
  | nil => simp [valueOfDigits]
  | cons d places ih =>
    have hcons : ∀ n, valueOfDigits n (d :: places) = valueOfDigits (10 * n + d) places :=
      fun _ => rfl
    rw [hcons, hcons, ih, ih (10 * 0 + d), List.length_cons, pow_succ]
    ring

/-- Digits behind others are worth their own value. -/
lemma digitsValue_append (a b : List CodePoint) :
    digitsValue (a ++ b) = digitsValue a * 10 ^ b.length + digitsValue b := by
  have hfold : valueOfDigits 0 (digitValues a ++ digitValues b) =
      valueOfDigits (digitsValue a) (digitValues b) := List.foldl_append
  rw [digitsValue, digitValues, List.map_append, ← digitValues, ← digitValues, hfold,
    valueOfDigits_eq, digitValues, List.length_map]
  rfl

/-- Zeros in front are worth nothing. -/
@[simp] lemma digitsValue_zero_cons (digits : List CodePoint) :
    digitsValue ('0' :: digits) = digitsValue digits := by
  rfl

@[simp] lemma digitsValue_replicate_zero (n : Nat) : digitsValue (List.replicate n '0') = 0 := by
  induction n with
  | zero => rfl
  | succ n ih => rw [List.replicate_succ, digitsValue_zero_cons, ih]

/-- The decimal of a number has its value. -/
@[simp] lemma digitsValue_decimal (n : Nat) : digitsValue (decimal n) = n := by
  have hvalue : Nat.ofDigitChars 10 (Nat.toDigits 10 n) 0 = n := Nat.ofDigitChars_ten_toDigits
  rw [Nat.ofDigitChars_eq_foldl] at hvalue
  rw [digitsValue, digitValues, decimal, List.map_map, valueOfDigits, List.foldl_map]
  exact hvalue

/-- So has a padded one. -/
@[simp] lemma digitsValue_decimalPadded (width n : Nat) :
    digitsValue (decimalPadded width n) = n := by
  simp [decimalPadded, padLeft, digitsValue_append]

/-- A decimal has digits enough. -/
lemma lt_pow_length_decimal (n : Nat) : n < 10 ^ (decimal n).length := by
  rw [length_decimal]
  exact (Nat.length_toDigits_le_iff (by decide) Nat.length_toDigits_pos).mp (Nat.le_refl _)

/-- Only nothing is written with a zero in front. -/
lemma eq_zero_of_head?_decimal (n : Nat) (h : (decimal n).head? = some (.char '0')) : n = 0 := by
  induction n using Nat.strong_induction_on with
  | h n ih =>
    rw [decimal, Nat.toDigits_eq_if (by decide)] at h
    split at h
    · next hn =>
      have hdigit : ∀ d < 10, ([Nat.digitChar d].map CodePoint.char).head? = some (.char '0') → d =
          0 := by
        decide
      exact hdigit n hn h
    · next hn =>
      rw [List.map_append, ← decimal, List.head?_append_of_ne_nil _ (decimal_ne_nil _)] at h
      have htenth := ih (n / 10) (by omega) h
      omega

/-- A number that fits is padded to the width. -/
lemma length_decimalPadded {width n : Nat} (hwidth : 0 < width) (h : n < 10 ^ width) :
    (decimalPadded width n).length = width := by
  have hlength : (decimal n).length ≤ width := by
    rw [length_decimal]
    exact (Nat.length_toDigits_le_iff (by decide) hwidth).mpr h
  simp [decimalPadded, padLeft, Nat.sub_add_cancel hlength]

@[simp] lemma isDigits_decimalPadded (width n : Nat) : IsDigits (decimalPadded width n) := by
  simp [decimalPadded, padLeft]

lemma digitsValue_cons (c : CodePoint) (digits : List CodePoint) : digitsValue (c :: digits) =
    (c.toNat - '0'.toNat) * 10 ^ digits.length + digitsValue digits := by
  have hfirst : digitsValue [c] = c.toNat - '0'.toNat := by
    simp [digitsValue, digitValues, valueOfDigits]
  rw [← hfirst, ← digitsValue_append, List.singleton_append]

lemma toNat_of_isDigit (h : c.isDigit = true) : 48 ≤ c.toNat ∧ c.toNat ≤ 57 := by
  rw [CodePoint.isDigit, Bool.and_eq_true, decide_eq_true_iff, decide_eq_true_iff] at h
  exact h

/-- Digits are worth less than the power of ten that they cannot reach. -/
lemma digitsValue_lt (h : IsDigits digits) : digitsValue digits < 10 ^ digits.length := by
  induction digits with
  | nil => decide
  | cons c digits ih =>
    rw [isDigits_cons] at h
    have hcode := toNat_of_isDigit h.1
    have hrest := ih h.2
    have hzero : '0'.toNat = 48 := rfl
    have hmul : (c.toNat - '0'.toNat) * 10 ^ digits.length ≤ 9 * 10 ^ digits.length :=
      Nat.mul_le_mul_right _ (by omega)
    rw [digitsValue_cons, List.length_cons, pow_succ]
    omega

/-- Rows of as many digits that stand for the same number are the same. -/
lemma eq_of_digitsValue_eq (ha : IsDigits a) (hb : IsDigits b) (hlength : a.length = b.length)
    (hvalue : digitsValue a = digitsValue b) : a = b := by
  induction a generalizing b with
  | nil => exact (List.length_eq_zero_iff.mp hlength.symm).symm
  | cons c a ih =>
    obtain ⟨d, b, rfl⟩ := List.exists_cons_of_length_eq_add_one hlength.symm
    rw [isDigits_cons] at ha hb
    rw [List.length_cons, List.length_cons, Nat.succ_inj] at hlength
    have hpos : 0 < 10 ^ a.length := Nat.pow_pos (by decide)
    have ha' := digitsValue_lt ha.2
    have hb' := digitsValue_lt hb.2
    rw [digitsValue_cons, digitsValue_cons, ← hlength] at hvalue
    rw [← hlength] at hb'
    have hfirst : c.toNat - '0'.toNat = d.toNat - '0'.toNat := by
      have hdiv := congrArg (· / 10 ^ a.length) hvalue
      simpa only [Nat.mul_add_div hpos, Nat.mul_comm _ (10 ^ a.length), Nat.div_eq_of_lt ha',
        Nat.div_eq_of_lt hb', Nat.add_zero] using hdiv
    have hchar : c = d := by
      have hc := toNat_of_isDigit ha.1
      have hd := toNat_of_isDigit hb.1
      have hzero : '0'.toNat = 48 := rfl
      exact CodePoint.toNat_inj.mp (by omega)
    rw [hfirst, Nat.add_left_cancel_iff] at hvalue
    rw [hchar, ih ha.2 hb.2 hlength hvalue]

/-- Padding to the width of a row of digits gives the row. -/
lemma decimalPadded_digitsValue (h : IsDigits digits) (hne : digits ≠ []) :
    decimalPadded digits.length (digitsValue digits) = digits :=
  eq_of_digitsValue_eq (isDigits_decimalPadded _ _) h
    (length_decimalPadded (List.length_pos_of_ne_nil hne) (digitsValue_lt h))
    (digitsValue_decimalPadded _ _)

/-- A plain digit is worth what its code point says. -/
lemma digitValue?_of_isDigit (h : c.isDigit = true) :
    digitValue? c = some (c.toNat - '0'.toNat) := by
  rw [CodePoint.isDigit, Bool.and_eq_true, decide_eq_true_iff, decide_eq_true_iff] at h
  have hlow : 48 ≤ c.toNat := h.1
  have hhigh : c.toNat ≤ 57 := h.2
  have hascii : c.toNat < 128 := by omega
  rw [digitValue?, if_pos hascii, if_pos ⟨hlow, hhigh⟩]
  rfl

lemma not_isDigit_of_not_isDecimalDigit (h : isDecimalDigit c = false) : c.isDigit = false := by
  rw [← Bool.not_eq_true]
  intro hdigit
  rw [isDecimalDigit, digitValue?_of_isDigit hdigit] at h
  cases h

/-- The values of digits have the value of the digits. -/
lemma valueOfDigits_digitValues (digits : List CodePoint) :
    valueOfDigits 0 (digitValues digits) = digitsValue digits := rfl

/-- Reading takes the digits in front. -/
lemma takeDigits_append (h : IsDigits digits) {rest : List CodePoint}
    (hrest : takeDigits rest = ([], rest)) :
    takeDigits (digits ++ rest) = (digitValues digits, rest) := by
  induction digits with
  | nil => exact hrest
  | cons c digits ih =>
    rw [isDigits_cons] at h
    rw [List.cons_append, takeDigits, digitValue?_of_isDigit h.1, ih h.2]
    rfl

end Digits

/-! ### Numerals -/

section Numerals

variable {whole fraction tail : List CodePoint} {e : Int}

/-- Digits have no sign. -/
lemma takeSign_of_isDigits (h : IsDigits whole) (hne : whole ≠ []) (tail : List CodePoint) :
    takeSign (whole ++ tail) = (false, whole ++ tail) := by
  cases whole with
  | nil => contradiction
  | cons c whole =>
    have hc := (isDigits_cons.mp h).1
    unfold takeSign
    split
    · next heq =>
      cases heq
      exact absurd hc (by decide)
    · next heq =>
      cases heq
      exact absurd hc (by decide)
    · rfl

/-- Digits around a point are read. -/
lemma takeMantissa?_point (hwhole : IsDigits whole) (hne : whole ≠ [])
    (hfraction : IsDigits fraction) (htail : takeDigits tail = ([], tail)) :
    takeMantissa? (whole ++ .char '.' :: (fraction ++ tail)) =
      some (digitValues whole, digitValues fraction, tail) := by
  have hpoint : takeDigits (.char '.' :: (fraction ++ tail)) =
      ([], .char '.' :: (fraction ++ tail)) := rfl
  obtain ⟨c, whole, rfl⟩ := List.exists_cons_of_ne_nil hne
  rw [takeMantissa?, takeDigits_append hwhole hpoint]
  exact congrArg (fun found => some (digitValues (c :: whole), found))
    (takeDigits_append hfraction htail)

/-- Digits without a point are read. -/
lemma takeMantissa?_whole (hwhole : IsDigits whole) (hne : whole ≠ [])
    (htail : takeDigits tail = ([], tail)) (hpoint : tail.head? ≠ some (.char '.')) :
    takeMantissa? (whole ++ tail) = some (digitValues whole, [], tail) := by
  obtain ⟨c, whole, rfl⟩ := List.exists_cons_of_ne_nil hne
  rw [takeMantissa?, takeDigits_append hwhole htail]
  dsimp only [digitValues, List.map_cons]
  split
  · next heq => cases heq
  · next heq => cases heq
  · next heq =>
    cases heq
    exact absurd rfl hpoint
  · next heq =>
    cases heq
    rfl

/-- What is read piece by piece spells the number with these digits and this exponent. -/
lemma spellsUnsigned_of_takeMantissa? {text : List CodePoint}
    (hsign : takeSign text = (false, text))
    (hmantissa : takeMantissa? text = some (digitValues whole, digitValues fraction, tail))
    (hexp : takeExponent tail = (e, [])) :
    SpellsUnsigned text (digitsValue (whole ++ fraction) * 10 ^ (e - fraction.length)) := by
  refine ⟨hsign, ⟨false, digitValues whole, digitValues fraction, e⟩, ?_, ?_⟩
  · rw [takeNumeral?, hsign, hmantissa]
    dsimp only
    rw [hexp]
  · have hdigits : digitValues whole ++ digitValues fraction = digitValues (whole ++ fraction) :=
      List.map_append.symm
    have hlength : (digitValues fraction).length = fraction.length := List.length_map _
    rw [Numeral.toRat, hdigits, valueOfDigits_digitValues, hlength]
    simp

/-- Digits around a point spell a number. -/
lemma spellsUnsigned_point (hwhole : IsDigits whole) (hne : whole ≠ [])
    (hfraction : IsDigits fraction) (htail : takeDigits tail = ([], tail))
    (hexp : takeExponent tail = (e, [])) : SpellsUnsigned (whole ++ .char '.' :: (fraction ++ tail))
      (digitsValue (whole ++ fraction) * 10 ^ (e - fraction.length)) :=
  spellsUnsigned_of_takeMantissa? (takeSign_of_isDigits hwhole hne _)
    (takeMantissa?_point hwhole hne hfraction htail) hexp

/-- Digits without a point spell a number. -/
lemma spellsUnsigned_whole (hwhole : IsDigits whole) (hne : whole ≠ [])
    (htail : takeDigits tail = ([], tail)) (hpoint : tail.head? ≠ some (.char '.'))
    (hexp : takeExponent tail = (e, [])) :
    SpellsUnsigned (whole ++ tail) (digitsValue whole * 10 ^ e) := by
  have hmantissa : takeMantissa? (whole ++ tail) = some (digitValues whole, digitValues [], tail) :=
    takeMantissa?_whole hwhole hne htail hpoint
  simpa using spellsUnsigned_of_takeMantissa? (takeSign_of_isDigits hwhole hne _) hmantissa hexp

/-- Digits on both sides of a point. -/
lemma spellsUnsigned_decimal (hwhole : IsDigits whole) (hne : whole ≠ [])
    (hfraction : IsDigits fraction) : SpellsUnsigned (whole ++ .char '.' :: fraction)
      (digitsValue (whole ++ fraction) * 10 ^ (-fraction.length : Int)) := by
  have h : SpellsUnsigned (whole ++ .char '.' :: (fraction ++ [])) _ :=
    spellsUnsigned_point hwhole hne hfraction rfl rfl
  rwa [List.append_nil, zero_sub] at h

/-- Digits alone. -/
lemma spellsUnsigned_digits (hwhole : IsDigits whole) (hne : whole ≠ []) :
    SpellsUnsigned whole (digitsValue whole) := by
  have h : SpellsUnsigned (whole ++ []) _ := spellsUnsigned_whole hwhole hne rfl nofun rfl
  rwa [List.append_nil, zpow_zero, mul_one] at h

/-- A minus sign in front negates what is spelled. -/
lemma SpellsUnsigned.signed {text : List CodePoint} {q : ℚ} (h : SpellsUnsigned text q)
    (negative : Bool) : Spells (signed negative text) (if negative then -q else q) := by
  obtain ⟨hsign, n, htake, rfl⟩ := h
  cases negative with
  | false => exact ⟨n, htake, rfl⟩
  | true =>
    have hminus : takeSign ('-' :: text) = (true, text) := rfl
    rw [takeNumeral?, hsign] at htake
    cases hmantissa : takeMantissa? text with
    | none => simp [hmantissa] at htake
    | some found =>
      obtain ⟨whole, fraction, rest⟩ := found
      simp only [hmantissa, Option.some.injEq, Prod.mk.injEq] at htake
      obtain ⟨rfl, hrest⟩ := htake
      refine ⟨⟨true, whole, fraction, (takeExponent rest).1⟩, ?_, ?_⟩
      · rw [Number.signed, if_pos rfl, takeNumeral?, hminus]
        simp only [hmantissa, hrest]
      · simp [Numeral.toRat]

/-- A written exponent is read back. -/
lemma takeExponent_exponentText (e : Int) : takeExponent (exponentText e) = (e, []) := by
  have hdigits : IsDigits (decimalPadded 2 e.natAbs) := by simp [decimalPadded, padLeft]
  have hread : takeDigits (decimalPadded 2 e.natAbs ++ []) = _ := takeDigits_append hdigits rfl
  rw [List.append_nil] at hread
  have hne : digitValues (decimalPadded 2 e.natAbs) ≠ [] := by
    simp [digitValues, decimalPadded, padLeft]
  have hsign : takeSign ((if e < 0 then '-' else '+') :: decimalPadded 2 e.natAbs) =
      (decide (e < 0), decimalPadded 2 e.natAbs) := by
    by_cases he : e < 0 <;> simp [he, takeSign]
  obtain ⟨d, digits, hd⟩ := List.exists_cons_of_ne_nil hne
  have hvalue := valueOfDigits_digitValues (decimalPadded 2 e.natAbs)
  rw [digitsValue_decimalPadded] at hvalue
  rw [exponentText, takeExponent, if_pos (.inl rfl), hsign, hread, hd]
  rw [hd] at hvalue
  dsimp only
  rw [hvalue]
  by_cases he : e < 0
  · simp [he, abs_of_neg he]
  · simp [he, abs_of_nonneg (not_lt.mp he)]

end Numerals

end TripProposal.Number
