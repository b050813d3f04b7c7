import TripProposal.Proofs.Number.Numerals
import TripProposal.Proofs.Number.Range

/-!
# What numbers are written as

The text of a number spells its shortest decimal form: neither dropping zeros at the end of the
digits nor placing the point changes what they stand for. The decimal form reads back as the
number, so it is zero for a zero only.
-/

namespace TripProposal.Number

open Text

/-! ### The shortest decimal form -/

lemma ofDecimal?_zero (exponent : Int) : Magnitude.ofDecimal? 0 exponent = some .zero := by
  unfold Magnitude.ofDecimal?
  split <;> simp [Magnitude.ofRatio?]

/-- A quotient is rounded to one of its neighbours. -/
lemma roundDiv_of_neighbours {p : Nat → Prop} {num den : Nat} (hlow : p (num / den))
    (hhigh : p (num / den + 1)) : p (roundDiv num den) := by
  have hbounds := And.intro (div_le_roundDiv num den) (roundDiv_le num den)
  obtain h | h : roundDiv num den = num / den ∨ roundDiv num den = num / den + 1 := by omega
  · rwa [h]
  · rwa [h]

/-- A point of a grid is only taken when it reads back. -/
lemma gridPoint?_readsBack {size : Magnitude} {exponent : Int} {point : Nat × Int}
    (h : gridPoint? size exponent = some point) :
    Magnitude.ofDecimal? point.1 point.2 = some size := by
  unfold gridPoint? at h
  dsimp only at h
  split at h
  · next hlow hhigh =>
    cases h
    refine roundDiv_of_neighbours (p := fun n => Magnitude.ofDecimal? n exponent = some size) ?_ ?_
    · simpa using hlow
    · simpa using hhigh
  · next hlow hhigh =>
    cases h
    simpa using hlow
  · next hlow hhigh =>
    cases h
    simpa using hhigh
  · cases h

/-- Only zero is written with the coefficient zero. -/
lemma shortestDecimal_ne_zero {size : Magnitude} (h : size.mantissa ≠ 0) :
    size.shortestDecimal.1 ≠ 0 := by
  unfold Magnitude.shortestDecimal
  dsimp only
  split
  · next point hpoint =>
    obtain ⟨k, -, hgrid⟩ := List.exists_of_findSome?_eq_some hpoint
    have hread := gridPoint?_readsBack hgrid
    intro hzero
    rw [hzero, ofDecimal?_zero, Option.some.injEq] at hread
    exact h (hread ▸ rfl)
  · unfold Magnitude.exactDecimal
    split
    · exact Nat.mul_ne_zero h (Nat.pow_pos (by decide)).ne'
    · exact Nat.mul_ne_zero h (Nat.pow_pos (by decide)).ne'

/-! ### Layout -/

/-- Zeros at the end count in the exponent. -/
lemma natCast_mul_ten_pow (n k : Nat) (e : Int) :
    ((n * 10 ^ k : Nat) : ℚ) * 10 ^ e = n * 10 ^ (e + k) := by
  rw [zpow_add₀ (by norm_num), zpow_natCast]
  push_cast
  ring

/-- What is dropped are zeros at the end, each of which counts in the exponent. -/
lemma exists_dropTrailingZeros (digits : List CodePoint) (exponent : Int) :
    ∃ k : Nat, digits = (dropTrailingZeros digits exponent).1 ++ List.replicate k (.char '0') ∧
      (dropTrailingZeros digits exponent).2 = exponent + k := by
  let zeros := digits.reverse.takeWhile (· == .char '0')
  have hzeros : zeros = List.replicate zeros.length (.char '0') := by
    refine List.eq_replicate_iff.mpr ⟨rfl, fun c hc => ?_⟩
    simpa using List.all_eq_true.mp List.all_takeWhile c hc
  have hdigits : digits = (dropTrailingZeros digits exponent).1 ++
      List.replicate zeros.length (.char '0') := by
    calc digits = (zeros ++ digits.reverse.dropWhile (· == .char '0')).reverse := by
          rw [List.takeWhile_append_dropWhile, List.reverse_reverse]
      _ = (dropTrailingZeros digits exponent).1 ++ zeros.reverse := List.reverse_append
      _ = _ := by rw [hzeros, List.reverse_replicate, List.length_replicate]
  refine ⟨zeros.length, hdigits, ?_⟩
  have hlength := congrArg List.length hdigits
  rw [List.length_append, List.length_replicate] at hlength
  have hdropped : (dropTrailingZeros digits exponent).2 =
      exponent + (digits.length - (dropTrailingZeros digits exponent).1.length : Nat) := rfl
  omega

/-- Whether a text is a row of digits that may stand in front of a point: there is one at least,
and no needless zero in front. -/
structure IsWhole (text : List CodePoint) : Prop where
  digits : IsDigits text
  ne_nil : text ≠ []
  /-- Only a zero alone starts with a zero. -/
  zero : text.head? = some (.char '0') → text = [.char '0']

/-- The forms in which numbers are written, with the rational numbers that they stand for. -/
inductive IsPrinted : List CodePoint → ℚ → Prop
  /-- Digits around a point, `2.0` -/
  | point {whole fraction : List CodePoint} (hwhole : IsWhole whole) (hfraction : IsDigits fraction)
    (hne : fraction ≠ []) : IsPrinted (whole ++ .char '.' :: fraction)
      (digitsValue (whole ++ fraction) * 10 ^ (-fraction.length : Int))
  /-- Digits with an exponent, `1e-07` -/
  | exponent {whole : List CodePoint} (hwhole : IsWhole whole) (e : Int) :
    IsPrinted (whole ++ exponentText e) (digitsValue whole * 10 ^ e)
  /-- Both, `1.5e-07` -/
  | scientific {whole fraction : List CodePoint} (hwhole : IsWhole whole)
    (hfraction : IsDigits fraction) (hne : fraction ≠ []) (e : Int) :
    IsPrinted (whole ++ .char '.' :: (fraction ++ exponentText e))
      (digitsValue (whole ++ fraction) * 10 ^ (e - fraction.length))

/-- Each of the printed forms spells its number. -/
lemma IsPrinted.spellsUnsigned {text : List CodePoint} {q : ℚ} (h : IsPrinted text q) :
    SpellsUnsigned text q := by
  cases h with
  | point hwhole hfraction _ => exact spellsUnsigned_decimal hwhole.digits hwhole.ne_nil hfraction
  | exponent hwhole e =>
    exact spellsUnsigned_whole hwhole.digits hwhole.ne_nil rfl (by simp [exponentText])
      (takeExponent_exponentText e)
  | scientific hwhole hfraction _ e =>
    exact spellsUnsigned_point hwhole.digits hwhole.ne_nil hfraction rfl
      (takeExponent_exponentText e)

lemma IsWhole.exists_cons {whole : List CodePoint} (h : IsWhole whole) (rest : List CodePoint) :
    ∃ d text, whole ++ rest = d :: text ∧ d.isDigit = true := by
  obtain ⟨d, digits, rfl⟩ := List.exists_cons_of_ne_nil h.ne_nil
  exact ⟨d, digits ++ rest, rfl, (isDigits_cons.mp h.digits).1⟩

/-- A number that is written starts with a digit. -/
lemma IsPrinted.exists_cons {text : List CodePoint} {q : ℚ} (h : IsPrinted text q) :
    ∃ d behind, text = d :: behind ∧ d.isDigit = true := by
  cases h with
  | point hwhole _ _ => exact hwhole.exists_cons _
  | exponent hwhole _ => exact hwhole.exists_cons _
  | scientific hwhole _ _ _ => exact hwhole.exists_cons _

section Layout

variable {digits : List CodePoint}

lemma isWhole_singleton {d : CodePoint} (h : d.isDigit = true) : IsWhole [d] := by
  refine ⟨by simpa using h, List.cons_ne_nil d [], ?_⟩
  rintro ⟨⟩
  rfl

lemma isWhole_of_head? (h : IsDigits digits) (hne : digits ≠ [])
    (hhead : digits.head? ≠ some (.char '0')) :
    IsWhole digits :=
  ⟨h, hne, fun hzero => absurd hzero hhead⟩

/-- Zeros between the point and the digits. -/
lemma isPrinted_zeros_before (h : IsDigits digits) (hne : digits ≠ []) (k : Nat) :
    IsPrinted (.char '0' :: .char '.' :: (List.replicate k (.char '0') ++ digits))
      (digitsValue digits * 10 ^ (-(k + digits.length : Nat) : Int)) := by
  have hprinted :
      IsPrinted ([.char '0'] ++ .char '.' :: (List.replicate k (.char '0') ++ digits)) _ :=
    .point (isWhole_singleton rfl) (by simp [h]) (by simp [hne])
  have hvalue : digitsValue ([.char '0'] ++ (List.replicate k (.char '0') ++ digits)) =
      digitsValue digits := by
    simp [digitsValue_append]
  rwa [hvalue, List.length_append, List.length_replicate] at hprinted

/-- Zeros behind the digits, and a point. -/
lemma isPrinted_zeros_behind (h : IsDigits digits) (hne : digits ≠ [])
    (hhead : digits.head? ≠ some (.char '0')) (k : Nat) :
    IsPrinted (digits ++ List.replicate k (.char '0') ++ [.char '.', .char '0'])
      (digitsValue digits * 10 ^ (k : Int)) := by
  have hwhole : IsWhole (digits ++ List.replicate k (.char '0')) := by
    refine isWhole_of_head? (by simp [h]) (by simp [hne]) ?_
    rwa [List.head?_append_of_ne_nil _ hne]
  have hprinted : IsPrinted (digits ++ List.replicate k (.char '0') ++ .char '.' :: [.char '0']) _ :=
    .point hwhole (by simp) (List.cons_ne_nil _ _)
  have hvalue : digitsValue (digits ++ List.replicate k (.char '0') ++ [.char '0']) =
      digitsValue digits * 10 ^ (k + 1) := by
    rw [digitsValue_append, digitsValue_append, digitsValue_replicate_zero, pow_succ]
    simp [Nat.mul_assoc]
  have hexp : (-(([.char '0'] : List CodePoint).length : Int)) + (k + 1 : Nat) = k := by
    rw [List.length_singleton]
    omega
  rwa [hvalue, natCast_mul_ten_pow, hexp] at hprinted

/-- A point among the digits. -/
lemma isPrinted_point_within (h : IsDigits digits) (hhead : digits.head? ≠ some (.char '0'))
    {k : Nat} (hk : k ≠ 0) (hlength : k < digits.length) :
    IsPrinted (digits.take k ++ .char '.' :: digits.drop k)
      (digitsValue digits * 10 ^ (-(digits.length - k : Nat) : Int)) := by
  have hne : digits ≠ [] := List.ne_nil_of_length_pos (by omega)
  have hdrop : IsDigits (digits.drop k) := fun c hc => h c (List.mem_of_mem_drop hc)
  have hwhole : IsWhole (digits.take k) := by
    refine isWhole_of_head? (fun c hc => h c (List.mem_of_mem_take hc)) (by simp [hk, hne]) ?_
    rwa [List.head?_take, if_neg hk]
  have hprinted := IsPrinted.point hwhole hdrop (by simpa using hlength)
  rwa [List.take_append_drop, List.length_drop] at hprinted

/-- Wherever the point is placed, the digits stand for the same number. -/
lemma isPrinted_layoutDigits (h : IsDigits digits) (hne : digits ≠ [])
    (hhead : digits.head? ≠ some (.char '0')) (point : Int) :
    IsPrinted (layoutDigits digits point) (digitsValue digits * 10 ^ (point - digits.length)) := by
  unfold layoutDigits
  split
  · split
    · contradiction
    · next d => exact .exponent (isWhole_singleton (isDigits_cons.mp h).1) _
    · next d rest hrest =>
      obtain ⟨hd, hdigits⟩ := isDigits_cons.mp h
      have hexp : point - (d :: rest).length = point - 1 - rest.length := by
        rw [List.length_cons]
        omega
      rw [hexp]
      exact .scientific (isWhole_singleton hd) hdigits hrest _
  · split
    · have hexp : point - digits.length = -((-point).toNat + digits.length : Nat) := by omega
      rw [hexp]
      exact isPrinted_zeros_before h hne _
    · split
      · have hexp : point - digits.length = (point.toNat - digits.length : Nat) := by omega
        rw [hexp]
        exact isPrinted_zeros_behind h hne hhead _
      · have hexp : point - digits.length = -(digits.length - point.toNat : Nat) := by omega
        rw [hexp]
        exact isPrinted_point_within h hhead (by omega) (by omega)

end Layout

/-! ### Numbers -/

/-- The number that the decimal form of a magnitude stands for. -/
def Magnitude.spelled (size : Magnitude) : ℚ :=
  if size.mantissa = 0 then 0 else size.shortestDecimal.1 * 10 ^ size.shortestDecimal.2

/-- A magnitude is written in a form of the number that its shortest decimal form stands for. -/
lemma isPrinted_magnitudeText (size : Magnitude) : IsPrinted size.text size.spelled := by
  unfold Magnitude.text Magnitude.spelled
  split
  · have hprinted : IsPrinted ([.char '0'] ++ .char '.' :: [.char '0']) _ :=
      .point (isWhole_singleton rfl) (by simp) (List.cons_ne_nil _ _)
    simpa using hprinted
  · next hsize =>
    dsimp only
    obtain ⟨k, hdigits, hexp⟩ := exists_dropTrailingZeros (decimal size.shortestDecimal.1)
      size.shortestDecimal.2
    generalize dropTrailingZeros (decimal size.shortestDecimal.1) size.shortestDecimal.2 = kept
      at hdigits hexp ⊢
    have hcoefficient := shortestDecimal_ne_zero hsize
    have hall := isDigits_decimal size.shortestDecimal.1
    have hvalue := digitsValue_decimal size.shortestDecimal.1
    have hhead := mt (eq_zero_of_head?_decimal size.shortestDecimal.1) hcoefficient
    rw [hdigits] at hall hvalue hhead
    rw [digitsValue_append, digitsValue_replicate_zero, List.length_replicate,
      Nat.add_zero] at hvalue
    have hne : kept.1 ≠ [] := by
      intro hnil
      rw [hnil, digitsValue_nil, Nat.zero_mul] at hvalue
      exact hcoefficient hvalue.symm
    rw [List.head?_append_of_ne_nil _ hne] at hhead
    have hprinted := isPrinted_layoutDigits (isDigits_append.mp hall).1 hne hhead
      (kept.2 + kept.1.length)
    rw [add_sub_cancel_right] at hprinted
    rwa [← hvalue, natCast_mul_ten_pow, ← hexp]

/-- The text of a magnitude spells the shortest decimal that reads back to it. -/
lemma spellsUnsigned_magnitudeText (size : Magnitude) : SpellsUnsigned size.text size.spelled :=
  (isPrinted_magnitudeText size).spellsUnsigned

end TripProposal.Number
