import Mathlib.Algebra.Order.Floor.Ring
import Mathlib.Data.Rat.Floor
import TripProposal.Proofs.Number.Rounding
import TripProposal.Template.Display

/-!
# Amounts of money

An amount shows as dollars exactly: the text spells the amount rounded to whole cents. The amount
of a number that is no integer is the one that its decimal form spells. Amounts are rounded with a
limited number of digits, and this limit grows with the amount so that it is never reached. Another
limit does not grow: whole dollars of more digits than can be read have no text.
-/

namespace TripProposal.Template

open Text Number

/-! ### Dollar texts -/

/-- The parts of a text for dollars: the digits before the point in groups, and those behind. -/
structure DollarText where
  negative : Bool
  first : List CodePoint
  groups : List (List CodePoint)
  cents : List CodePoint
  isDigits : IsDigits (first ++ groups.flatten ++ cents)
  length_first : first ≠ [] ∧ first.length ≤ 3
  length_groups : ∀ group ∈ groups, group.length = 3
  /-- There is no zero in front but that of nothing. -/
  first_ne_zero : first.head? = some (.char '0') → first = [.char '0'] ∧ groups = []
  /-- There are no more than two digits behind the point. -/
  length_cents : cents.length ≤ 2
  /-- They do not end in a zero. -/
  last_ne_zero : cents.getLast? ≠ some (.char '0')

namespace DollarText

/-- The point with the digits behind it. -/
def behind (cents : List CodePoint) : List CodePoint :=
  if cents = [] then [] else '.' :: cents

/-- The text. -/
def text (d : DollarText) : List CodePoint :=
  signed d.negative (.char '$' :: d.first ++ d.groups.flatMap (.char ',' :: ·) ++ behind d.cents)

/-- Whether a character is neither the dollar sign nor a comma. -/
def isPlain (c : CodePoint) : Bool :=
  c ≠ '$' ∧ c ≠ ','

/-- The text without the dollar sign and the commas. -/
def plain (d : DollarText) : List CodePoint :=
  d.text.filter isPlain

end DollarText

/-- The nearest integer, ties going away from zero. -/
def roundAway (q : ℚ) : ℤ :=
  if 0 ≤ q then ⌊q + 1 / 2⌋ else ⌈q - 1 / 2⌉

/-- Whether a value shows as an amount of dollars, rounded to cents. -/
def ShowsAsDollars (v : Value) (amount : ℚ) : Prop :=
  ∃ d : DollarText, displayCurrency (some v) = .ok d.text ∧
    Spells d.plain (roundAway (100 * amount) / 100) ∧
    (d.negative = true ↔ roundAway (100 * amount) < 0) ∧
    (d.cents = [] ↔ 100 ∣ roundAway (100 * amount))

lemma roundAway_zero : roundAway 0 = 0 := by
  norm_num [roundAway]

lemma roundAway_of_pos {q : ℚ} (h : 0 < q) : roundAway q = ⌊q + 1 / 2⌋ :=
  if_pos h.le

lemma roundAway_of_neg {q : ℚ} (h : q < 0) : roundAway q = ⌈q - 1 / 2⌉ :=
  if_neg h.not_ge

/-- Rounding is the same on both sides of zero. -/
lemma roundAway_neg (q : ℚ) : roundAway (-q) = -roundAway q := by
  rcases lt_trichotomy q 0 with h | rfl | h
  · rw [roundAway_of_pos (neg_pos.mpr h), roundAway_of_neg h, ← Int.floor_neg]
    congr 1
    ring
  · rw [neg_zero, roundAway_zero, neg_zero]
  · rw [roundAway_of_neg (neg_lt_zero.mpr h), roundAway_of_pos h, ← Int.ceil_neg]
    congr 1
    ring

/-- The number that an amount stands for. -/
def Amount.toRat (a : Amount) : ℚ :=
  (if a.negative then -1 else 1) * (a.coefficient * 10 ^ a.exponent)

/-- The cents are rounded with halves going up. -/
lemma Amount.cents_eq_floor (a : Amount) :
    (a.cents : ℤ) = ⌊(a.coefficient * 10 ^ (a.exponent + 2) : ℚ) + 1 / 2⌋ := by
  unfold cents
  dsimp only
  split
  · next hpower =>
    obtain ⟨k, hk⟩ := Int.eq_ofNat_of_zero_le hpower
    have hwhole : (a.coefficient * 10 ^ (a.exponent + 2) : ℚ) =
        ((a.coefficient * Nat.pow 10 k : Nat) : ℚ) := by simp [hk]
    have hhalf : ⌊(1 / 2 : ℚ)⌋ = 0 := by norm_num
    rw [hwhole, Int.floor_natCast_add, hhalf, hk, Int.toNat_natCast, add_zero]
  · next hpower =>
    obtain ⟨k, hk⟩ := Int.eq_ofNat_of_zero_le (show 0 ≤ -(a.exponent + 2) by omega)
    have hexp : a.exponent + 2 = -(k : ℤ) := by omega
    have hscale : (10 ^ k : ℚ) ≠ 0 := pow_ne_zero k (by norm_num)
    have hquotient : (a.coefficient * 10 ^ (a.exponent + 2) : ℚ) + 1 / 2 =
        ((2 * a.coefficient + Nat.pow 10 k : Nat) : ℚ) / ((2 * Nat.pow 10 k : Nat) : ℚ) := by
      rw [hexp, zpow_neg, zpow_natCast, Nat.pow_eq]
      push_cast
      field_simp
    rw [hquotient, hk, Int.toNat_natCast]
    exact_mod_cast (Rat.floor_natCast_div_natCast _ _).symm

/-- With its sign an amount is rounded away from zero. -/
lemma Amount.roundAway_toRat (a : Amount) :
    roundAway (100 * a.toRat) = if a.negative then -(a.cents : ℤ) else a.cents := by
  have hnonneg : (0 : ℚ) ≤ a.coefficient * 10 ^ (a.exponent + 2) :=
    mul_nonneg a.coefficient.cast_nonneg (zpow_nonneg (by norm_num) _)
  have hcents : roundAway (a.coefficient * 10 ^ (a.exponent + 2)) = a.cents := by
    rw [a.cents_eq_floor]
    exact if_pos hnonneg
  have hscaled : 100 * a.toRat =
      (if a.negative then -1 else 1) * (a.coefficient * 10 ^ (a.exponent + 2)) := by
    rw [toRat, zpow_add₀ (by norm_num)]
    ring
  rw [hscaled]
  split
  · rw [neg_one_mul, roundAway_neg, hcents]
  · rw [one_mul, hcents]

/-! ### Digits that are kept -/

/-- A power of ten bounds the number of digits. -/
lemma length_decimal_le {n k : Nat} (h : n ≤ 10 ^ k) : (decimal n).length ≤ k + 1 := by
  rw [length_decimal, Nat.length_toDigits_le_iff (by decide) (Nat.succ_pos k)]
  exact Nat.lt_of_le_of_lt h (Nat.pow_lt_pow_right (by decide) (Nat.lt_succ_self k))

/-- Rounding reaches at most the next power of ten. -/
lemma Amount.cents_le (a : Amount) {k : Nat}
    (h : a.exponent + (decimal a.coefficient).length + 2 ≤ k) : a.cents ≤ 10 ^ k := by
  have hdigits := lt_pow_length_decimal a.coefficient
  unfold cents
  dsimp only
  split
  · next hpower =>
    obtain ⟨p, hp⟩ := Int.eq_ofNat_of_zero_le hpower
    rw [hp, Int.toNat_natCast, Nat.pow_eq]
    calc a.coefficient * 10 ^ p ≤ 10 ^ (decimal a.coefficient).length * 10 ^ p :=
          Nat.mul_le_mul_right _ hdigits.le
      _ = 10 ^ ((decimal a.coefficient).length + p) := (Nat.pow_add ..).symm
      _ ≤ 10 ^ k := Nat.pow_le_pow_right (by decide) (by omega)
  · next hpower =>
    obtain ⟨p, hp⟩ := Int.eq_ofNat_of_zero_le (show 0 ≤ -(a.exponent + 2) by omega)
    rw [hp, Int.toNat_natCast, Nat.pow_eq]
    have hpos : 0 < 10 ^ p := Nat.pow_pos (by decide)
    have hbound : a.coefficient < 10 ^ k * 10 ^ p := by
      rw [← Nat.pow_add]
      exact hdigits.trans_le (Nat.pow_le_pow_right (by decide) (by omega))
    rw [← Nat.lt_succ_iff, Nat.div_lt_iff_lt_mul (by omega)]
    calc 2 * a.coefficient + 10 ^ p < 2 * (10 ^ k * 10 ^ p) + 10 ^ p := by omega
      _ ≤ (10 ^ k + 1) * (2 * 10 ^ p) := by ring_nf; omega

/-- Commas part the digits into groups of three, of which the first may be shorter. -/
lemma exists_groups {digits : List CodePoint} (h : digits ≠ []) :
    ∃ (first : List CodePoint) (groups : List (List CodePoint)),
      groupDigits digits = first ++ groups.flatMap (.char ',' :: ·) ∧ first ++ groups.flatten = digits ∧
      first.length = (digits.length - 1) % 3 + 1 ∧ ∀ group ∈ groups, group.length = 3 := by
  induction digits with
  | nil => contradiction
  | cons d rest ih =>
    by_cases hrest : rest = []
    · subst hrest
      exact ⟨[d], [], by simp [groupDigits], by simp, by simp, by simp⟩
    · obtain ⟨first, groups, htext, hdigits, hfirst, hgroups⟩ := ih hrest
      have hpos := List.length_pos_iff.mpr hrest
      by_cases hthird : rest.length % 3 = 0
      · refine ⟨[d], first :: groups, ?_, ?_, ?_, ?_⟩
        · simp [groupDigits, hthird, hrest, htext]
        · simp [hdigits]
        · simp [hthird]
        · rw [List.forall_mem_cons]
          exact ⟨by omega, hgroups⟩
      · refine ⟨d :: first, groups, ?_, ?_, ?_, hgroups⟩
        · simp [groupDigits, hthird, htext]
        · simp [hdigits]
        · simp only [List.length_cons]
          omega

/-- The digits of the cents behind the point, without zeros at the end. -/
def centsDigits (cents : Nat) : List CodePoint :=
  if cents = 0 then [] else if cents % 10 = 0 then decimal (cents / 10) else decimalPadded 2 cents

/-- The cents are written behind a point, and not at all when there are none. -/
lemma centsText_eq : ∀ cents < 100, centsText cents = DollarText.behind (centsDigits cents) := by
  decide +kernel

/-- What is written for the cents has their value and no needless zeros. -/
lemma centsDigits_spec : ∀ cents < 100, IsDigits (centsDigits cents) ∧
    (centsDigits cents).length ≤ 2 ∧ (centsDigits cents).getLast? ≠ some (.char '0') ∧
    (centsDigits cents = [] ↔ cents = 0) ∧
    digitsValue (centsDigits cents) * 10 ^ (2 - (centsDigits cents).length) = cents := by
  decide +kernel

/-! ### Reading dollar texts -/

namespace DollarText

lemma filter_isPlain_of_isDigits {digits : List CodePoint} (h : IsDigits digits) :
    digits.filter isPlain = digits := by
  rw [List.filter_eq_self]
  intro c hc
  have hdigit := h c hc
  rw [isPlain, decide_eq_true_iff]
  constructor
  · rintro rfl
    exact absurd hdigit (by decide)
  · rintro rfl
    exact absurd hdigit (by decide)

/-- Without commas the groups are the digits. -/
lemma filter_isPlain_groups {groups : List (List CodePoint)} (h : IsDigits groups.flatten) :
    (groups.flatMap (.char ',' :: ·)).filter isPlain = groups.flatten := by
  induction groups with
  | nil => rfl
  | cons group groups ih =>
    rw [List.flatten_cons, isDigits_append] at h
    have hcomma : isPlain ',' = false := by decide
    rw [List.flatMap_cons, List.filter_append, List.filter_cons, hcomma,
      filter_isPlain_of_isDigits h.1, ih h.2, List.flatten_cons]
    rfl

/-- All the digits before the point. -/
def whole (d : DollarText) : List CodePoint :=
  d.first ++ d.groups.flatten

lemma filter_isPlain_behind {cents : List CodePoint} (h : IsDigits cents) :
    (behind cents).filter isPlain = behind cents := by
  have hpoint : isPlain '.' = true := by decide
  unfold behind
  split
  · rfl
  · rw [List.filter_cons, hpoint, if_pos rfl, filter_isPlain_of_isDigits h]

/-- Without dollar sign and commas a decimal remains. -/
lemma plain_eq (d : DollarText) : d.plain = signed d.negative (d.whole ++ behind d.cents) := by
  obtain ⟨hwhole, hcents⟩ := isDigits_append.mp d.isDigits
  obtain ⟨hfirst, hgroups⟩ := isDigits_append.mp hwhole
  have hdollar : isPlain '$' = false := by decide
  have hminus : isPlain '-' = true := by decide
  have hunsigned : (.char '$' :: d.first ++ d.groups.flatMap (.char ',' :: ·) ++ behind d.cents).filter
      isPlain = d.whole ++ behind d.cents := by
    rw [List.filter_append, List.cons_append, List.filter_cons, hdollar, List.filter_append,
      filter_isPlain_of_isDigits hfirst, filter_isPlain_groups hgroups,
      filter_isPlain_behind hcents]
    rfl
  rw [plain, text]
  cases d.negative with
  | false => exact hunsigned
  | true =>
    rw [signed, if_pos rfl, List.filter_cons, hminus, if_pos rfl, hunsigned]
    rfl

/-- This decimal spells the amount. -/
lemma spellsUnsigned_whole_behind (d : DollarText) : SpellsUnsigned (d.whole ++ behind d.cents)
    (digitsValue (d.whole ++ d.cents) * 10 ^ (-d.cents.length : ℤ)) := by
  obtain ⟨hwhole, hcents⟩ := isDigits_append.mp d.isDigits
  have hne : d.whole ≠ [] := by simp [whole, d.length_first.1]
  unfold behind
  split
  · next hnone =>
    rw [hnone, List.append_nil, List.length_nil, Nat.cast_zero, neg_zero, zpow_zero, mul_one]
    exact spellsUnsigned_digits hwhole hne
  · exact spellsUnsigned_decimal hwhole hne hcents

/-- Every number of cents has a dollar text. -/
lemma exists_text_eq (negative : Bool) (cents : Nat) : ∃ d : DollarText,
    d.text = dollarText negative cents ∧ d.negative = (negative && cents != 0) ∧
      digitsValue d.whole = cents / 100 ∧ d.cents = centsDigits (cents % 100) := by
  have hcents : cents % 100 < 100 := Nat.mod_lt _ (by decide)
  obtain ⟨hdigits, hlength, hlast, -, -⟩ := centsDigits_spec _ hcents
  obtain ⟨first, groups, htext, hwhole, hfirst, hgroups⟩ :=
    exists_groups (decimal_ne_nil (cents / 100))
  have hne : first ≠ [] := List.ne_nil_of_length_pos (by omega)
  have hzero : first.head? = some (.char '0') → first = [.char '0'] ∧ groups = [] := by
    intro hhead
    have hnone : cents / 100 = 0 := by
      refine eq_zero_of_head?_decimal _ ?_
      rw [← hwhole, List.head?_append_of_ne_nil _ hne, hhead]
    rw [hnone, show decimal 0 = [.char '0'] from rfl, List.append_eq_singleton_iff] at hwhole
    obtain ⟨hnil, -⟩ | ⟨hfirst, hrest⟩ := hwhole
    · exact absurd hnil hne
    · refine ⟨hfirst, List.eq_nil_iff_forall_not_mem.mpr fun group hgroup => ?_⟩
      have hlength := hgroups group hgroup
      rw [List.flatten_eq_nil_iff.mp hrest group hgroup] at hlength
      cases hlength
  refine ⟨⟨negative && cents != 0, first, groups, centsDigits (cents % 100), ?_, ⟨hne, by omega⟩,
    hgroups, hzero, hlength, hlast⟩, ?_, rfl, ?_, rfl⟩
  · rw [hwhole]
    exact isDigits_append.mpr ⟨isDigits_decimal _, hdigits⟩
  · rw [dollarText, htext, centsText_eq _ hcents]
    simp [text]
  · rw [whole, hwhole, digitsValue_decimal]

end DollarText

/-- The digits of dollars and cents stand for the cents. -/
lemma digitsValue_append_centsDigits {whole : List CodePoint} {cents : Nat}
    (h : digitsValue whole = cents / 100) :
    (digitsValue (whole ++ centsDigits (cents % 100)) : ℚ) *
      10 ^ (-(centsDigits (cents % 100)).length : ℤ) = cents / 100 := by
  have hcents : cents % 100 < 100 := Nat.mod_lt _ (by decide)
  obtain ⟨-, hlength, -, -, hvalue⟩ := centsDigits_spec _ hcents
  have hall : digitsValue (whole ++ centsDigits (cents % 100)) *
      10 ^ (2 - (centsDigits (cents % 100)).length) = cents := by
    have hpow : 10 ^ (centsDigits (cents % 100)).length *
        10 ^ (2 - (centsDigits (cents % 100)).length) = 100 := by
      rw [← Nat.pow_add, Nat.add_sub_cancel' hlength]
    rw [digitsValue_append, Nat.add_mul, hvalue, h, Nat.mul_assoc, hpow]
    omega
  have hexp : (-2 : ℤ) + (2 - (centsDigits (cents % 100)).length : Nat) =
      -(centsDigits (cents % 100)).length := by omega
  rw [← hexp, ← natCast_mul_ten_pow, hall]
  norm_num [div_eq_mul_inv]

/-- A value with an amount shows as the text of the amount. -/
lemma displayCurrency_eq {v : Value} {a : Amount} (h : amountOf v = .ok (some a)) :
    displayCurrency (some v) = a.text := by
  cases v with
  | null => cases h
  | _ =>
    unfold displayCurrency
    dsimp only
    rw [h]
    rfl

/-- A value with an amount of not too many digits shows as that amount. -/
lemma showsAsDollars_of_amountOf {v : Value} {a : Amount} (h : amountOf v = .ok (some a))
    (hdigits : (decimal (a.cents / 100)).length ≤ Value.maxDigits) :
    ShowsAsDollars v a.toRat := by
  have hshown : displayCurrency (some v) = .ok (dollarText a.negative a.cents) := by
    rw [displayCurrency_eq h, Amount.text, if_pos hdigits]
  obtain ⟨d, htext, hnegative, hwhole, hcents⟩ := DollarText.exists_text_eq a.negative a.cents
  have hspells := d.spellsUnsigned_whole_behind.signed d.negative
  rw [← d.plain_eq, hcents, digitsValue_append_centsDigits hwhole] at hspells
  have hsign : (if d.negative then -(a.cents / 100 : ℚ) else a.cents / 100) =
      ((if a.negative then -(a.cents : ℤ) else a.cents : ℤ) : ℚ) / 100 := by
    rw [hnegative]
    cases a.negative with
    | false => simp
    | true => by_cases hzero : a.cents = 0 <;> simp [hzero, neg_div]
  rw [hsign] at hspells
  refine ⟨d, hshown.trans (congrArg _ htext.symm), ?_, ?_, ?_⟩
  · rwa [a.roundAway_toRat]
  · rw [a.roundAway_toRat, hnegative]
    cases a.negative with
    | false => simp
    | true => simp [Nat.pos_iff_ne_zero]
  · obtain ⟨-, -, -, hnone, -⟩ := centsDigits_spec _ (Nat.mod_lt a.cents (show 0 < 100 by decide))
    rw [a.roundAway_toRat, hcents, hnone, ← Nat.dvd_iff_mod_eq_zero]
    split
    · rw [dvd_neg]
      exact_mod_cast Iff.rfl
    · exact_mod_cast Iff.rfl

/-- The amount of a number is what its decimal form spells, and has few enough digits. -/
lemma exists_amountOf_finite (negative : Bool) (size : Magnitude) : ∃ a : Amount,
    amountOf (.float (.finite negative size)) = .ok (some a) ∧
      (a.toRat = if negative then -size.spelled else size.spelled) ∧
      (decimal (a.cents / 100)).length ≤ Value.maxDigits := by
  rw [amountOf, Amount.ofNumber?, Magnitude.spelled]
  by_cases hsize : size.mantissa = 0
  · refine ⟨⟨negative, 0, 0⟩, by rw [if_pos hsize], ?_, ?_⟩
    · simp [Amount.toRat, hsize]
    · change (decimal (0 * 100 / 100)).length ≤ 4300
      decide
  · refine ⟨⟨negative, size.shortestDecimal.1, size.shortestDecimal.2⟩, by rw [if_neg hsize],
      ?_, ?_⟩
    · cases negative <;> simp [Amount.toRat, hsize]
    · -- The greatest numbers have three hundred and nine digits.
      have hexponent := exponent_bounds_of_ofDecimal? (shortestDecimal_ne_zero hsize)
        (ofDecimal?_shortestDecimal hsize) hsize
      have hcents := Amount.cents_le (k := 312)
        ⟨negative, size.shortestDecimal.1, size.shortestDecimal.2⟩ (by dsimp only; omega)
      have hlength := length_decimal_le ((Nat.div_le_self _ 100).trans hcents)
      exact hlength.trans (by decide)

end TripProposal.Template
