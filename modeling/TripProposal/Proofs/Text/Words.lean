import TripProposal.Calendar.DayKey
import TripProposal.Proofs.Text.Searching

/-!
# Words, numbers and gaps

Running text is read in pieces: a word of letters, a number in the digits of any script, blanks
between them. Each reader takes the longest piece in front, so what it takes is determined by the
kind of the next character.
-/

namespace TripProposal.Text

open Calendar Number

variable {text rest : List CodePoint} {c : CodePoint}

/-! ### Kinds of characters -/

lemma digitValue?_lt {d : Nat} (h : digitValue? c = some d) : d < 10 := by
  unfold digitValue? at h
  split at h
  · split at h
    · cases h
      omega
    · cases h
  · obtain ⟨start, hstart, rfl⟩ := Option.map_eq_some_iff.mp h
    have hin := List.find?_some hstart
    simp only [Bool.and_eq_true, decide_eq_true_eq] at hin
    omega

lemma toNat_of_isAlpha (h : c.isAlpha = true) :
    65 ≤ c.toNat ∧ c.toNat ≤ 90 ∨ 97 ≤ c.toNat ∧ c.toNat ≤ 122 := by
  rcases Bool.or_eq_true_iff.mp h with hupper | hlower
  · obtain ⟨hle, hge⟩ := Bool.and_eq_true_iff.mp hupper
    exact .inl ⟨of_decide_eq_true hle, of_decide_eq_true hge⟩
  · obtain ⟨hle, hge⟩ := Bool.and_eq_true_iff.mp hlower
    exact .inr ⟨of_decide_eq_true hle, of_decide_eq_true hge⟩

/-- The digits above ASCII lie apart from the blanks. -/
lemma decimalZeros_apart : ∀ start ∈ decimalZeros,
    start = 48 ∨ 1632 ≤ start ∧ start ≤ 4240 ∨ 6112 ≤ start ∧ start ≤ 7248 ∨ 42528 ≤ start := by
  decide

lemma not_isDecimalDigit_of_isBlank (h : isBlank c = true) : isDecimalDigit c = false := by
  simp only [isBlank, Bool.or_eq_true, Bool.and_eq_true, decide_eq_true_eq, beq_iff_eq] at h
  unfold isDecimalDigit digitValue?
  split
  · rw [if_neg (by omega)]
    rfl
  · have hnone :
        decimalZeros.find? (fun start => start ≤ c.toNat && c.toNat < start + 10) = none := by
      rw [List.find?_eq_none]
      intro start hstart
      have hapart := decimalZeros_apart start hstart
      simp only [Bool.and_eq_true, decide_eq_true_eq]
      omega
    rw [hnone]
    rfl

lemma not_isDecimalDigit_of_isAlpha (h : c.isAlpha = true) : isDecimalDigit c = false := by
  have hcode := toNat_of_isAlpha h
  rw [isDecimalDigit, digitValue?, if_pos (by omega), if_neg (by omega)]
  rfl

lemma not_isAlpha_of_isBlank (h : isBlank c = true) : c.isAlpha = false := by
  rw [← Bool.not_eq_true]
  intro halpha
  have hcode := toNat_of_isAlpha halpha
  simp only [isBlank, Bool.or_eq_true, Bool.and_eq_true, decide_eq_true_eq, beq_iff_eq] at h
  omega

lemma not_isBlank_of_isDecimalDigit (h : isDecimalDigit c = true) : isBlank c = false := by
  rw [← Bool.not_eq_true]
  intro hblank
  rw [not_isDecimalDigit_of_isBlank hblank] at h
  cases h

lemma not_isBlank_of_isAlpha (h : c.isAlpha = true) : isBlank c = false := by
  rw [← Bool.not_eq_true]
  intro hblank
  rw [not_isAlpha_of_isBlank hblank] at h
  cases h

lemma not_isAlpha_of_isDecimalDigit (h : isDecimalDigit c = true) : c.isAlpha = false := by
  rw [← Bool.not_eq_true]
  intro halpha
  rw [not_isDecimalDigit_of_isAlpha halpha] at h
  cases h

lemma isAlpha_of_asciiLower {c : CodePoint} (h : (asciiLower c).isLower = true) :
    c.isAlpha = true := by
  unfold asciiLower at h
  split at h
  · next hupper =>
    exact Bool.or_eq_true_iff.mpr (.inl (Bool.and_eq_true_iff.mpr
      ⟨decide_eq_true hupper.1, decide_eq_true hupper.2⟩))
  · exact Bool.or_eq_true_iff.mpr (.inr h)

/-! ### Gaps -/

/-- Whether a text consists of blanks, at least one. -/
structure IsGap (text : List CodePoint) : Prop where
  ne_nil : text ≠ []
  blank : ∀ c ∈ text, isBlank c = true

/-- A gap is taken as a whole, and it has at least one blank. -/
lemma takeGap?_eq_some_iff : takeGap? text = some rest ↔
    (∃ gap, IsGap gap ∧ text = gap ++ rest) ∧ ∀ c ∈ rest.head?, isBlank c = false := by
  constructor
  · intro h
    cases text with
    | nil => cases h
    | cons c text =>
      unfold takeGap? at h
      split at h
      · next d more hcons =>
        obtain ⟨rfl, rfl⟩ := List.cons.inj hcons
        split at h
        · next hblank =>
          obtain ⟨htext, hgap, hhead⟩ := takeWhile_dropWhile_iff.mp ⟨rfl, Option.some.inj h⟩
          refine ⟨⟨c :: text.takeWhile isBlank, ⟨by simp, ?_⟩, congrArg (c :: ·) htext⟩, hhead⟩
          rintro d (_ | ⟨_, hd⟩)
          · exact hblank
          · exact hgap d hd
        · cases h
      · cases h
  · rintro ⟨⟨gap, ⟨hne, hblank⟩, rfl⟩, hhead⟩
    obtain ⟨c, gap, rfl⟩ := List.exists_cons_of_ne_nil hne
    rw [List.forall_mem_cons] at hblank
    have hrun := takeWhile_dropWhile_iff.mpr ⟨rfl, hblank.2, hhead⟩
    rw [List.cons_append, takeGap?, if_pos hblank.1, hrun.2]

lemma takeGap?_append {gap : List CodePoint} (h : IsGap gap)
    (hhead : ∀ c ∈ rest.head?, isBlank c = false) : takeGap? (gap ++ rest) = some rest :=
  takeGap?_eq_some_iff.mpr ⟨⟨gap, h, rfl⟩, hhead⟩

/-- A word reaches to the first blank. -/
lemma takeWord_eq_iff {word : List CodePoint} : takeWord text = (word, rest) ↔
    text = word ++ rest ∧ (∀ c ∈ word, isBlank c = false) ∧ ∀ c ∈ rest.head?, isBlank c = true := by
  rw [takeWord, Prod.mk.injEq, takeWhile_dropWhile_iff]
  simp only [Bool.not_eq_true', Bool.not_eq_false']

lemma IsGap.head_isBlank (h : IsGap text) (rest : List CodePoint) :
    ∀ c ∈ (text ++ rest).head?, isBlank c = true := by
  obtain ⟨c, gap, rfl⟩ := List.exists_cons_of_ne_nil h.ne_nil
  rintro d ⟨⟩
  exact h.blank c (by simp)

/-! ### Words -/

/-- Whether a text consists of letters from `a` to `z` in either case, at least one. -/
structure IsWord (text : List CodePoint) : Prop where
  ne_nil : text ≠ []
  letters : ∀ c ∈ text, c.isAlpha = true

/-- Letters are taken up to the first character that is none. -/
lemma takeLetters_eq_iff {word : List CodePoint} : takeLetters text = (word, rest) ↔
    text = word ++ rest ∧ (∀ c ∈ word, c.isAlpha = true) ∧ ∀ c ∈ rest.head?, c.isAlpha = false := by
  rw [takeLetters, Prod.mk.injEq, takeWhile_dropWhile_iff]

lemma IsWord.head_isAlpha (h : IsWord text) (rest : List CodePoint) :
    ∀ c ∈ (text ++ rest).head?, c.isAlpha = true := by
  obtain ⟨c, word, rfl⟩ := List.exists_cons_of_ne_nil h.ne_nil
  rintro d ⟨⟩
  exact h.letters c (by simp)

/-! ### Numbers -/

/-- The values of the decimal digits of a text. -/
def placesOf (digits : List CodePoint) : List Nat := digits.filterMap digitValue?

/-- Whether a text consists of decimal digits, of any script, that stand for a number. -/
structure IsNumber (n : Nat) (text : List CodePoint) : Prop where
  digits : ∀ c ∈ text, isDecimalDigit c = true
  value : valueOfDigits 0 (placesOf text) = n

lemma takeDigits_eq (text : List CodePoint) : takeDigits text =
    (placesOf (text.takeWhile isDecimalDigit), text.dropWhile isDecimalDigit) := by
  induction text with
  | nil => rfl
  | cons c text ih =>
    cases hd : digitValue? c with
    | some d =>
      have hdigit : isDecimalDigit c = true := by simp [isDecimalDigit, hd]
      simp [takeDigits, hd, hdigit, ih, placesOf]
    | none =>
      have hdigit : isDecimalDigit c = false := by simp [isDecimalDigit, hd]
      simp [takeDigits, hd, hdigit, placesOf]

/-- Digits of all scripts are taken up to the first character that is none. -/
lemma takeDigits_eq_iff {places : List Nat} : takeDigits text = (places, rest) ↔
    ∃ digits, text = digits ++ rest ∧ (∀ c ∈ digits, isDecimalDigit c = true) ∧
      placesOf digits = places ∧ ∀ c ∈ rest.head?, isDecimalDigit c = false := by
  rw [takeDigits_eq, Prod.mk.injEq]
  constructor
  · rintro ⟨hplaces, hrest⟩
    obtain ⟨htext, hdigits, hhead⟩ := takeWhile_dropWhile_iff.mp ⟨rfl, hrest⟩
    exact ⟨_, htext, hdigits, hplaces, hhead⟩
  · rintro ⟨digits, htext, hdigits, hplaces, hhead⟩
    obtain ⟨hrun, hrest⟩ := takeWhile_dropWhile_iff.mpr ⟨htext, hdigits, hhead⟩
    rw [hrun]
    exact ⟨hplaces, hrest⟩

/-- Each digit has a value. -/
lemma length_placesOf (h : ∀ c ∈ text, isDecimalDigit c = true) :
    (placesOf text).length = text.length := by
  induction text with
  | nil => rfl
  | cons c text ih =>
    rw [List.forall_mem_cons] at h
    obtain ⟨d, hd⟩ := Option.isSome_iff_exists.mp h.1
    have hcons : placesOf (c :: text) = d :: placesOf text := List.filterMap_cons_some hd
    rw [hcons, List.length_cons, List.length_cons, ih h.2]

/-- Digits are worth less than the power of ten that they cannot reach. -/
lemma valueOfDigits_lt {places : List Nat} (h : ∀ d ∈ places, d < 10) (acc : Nat) :
    valueOfDigits acc places < (acc + 1) * Nat.pow 10 places.length := by
  induction places generalizing acc with
  | nil => simp [valueOfDigits]
  | cons d places ih =>
    rw [List.forall_mem_cons] at h
    calc valueOfDigits acc (d :: places) = valueOfDigits (10 * acc + d) places := rfl
      _ < (10 * acc + d + 1) * Nat.pow 10 places.length := ih h.2 _
      _ ≤ ((acc + 1) * 10) * Nat.pow 10 places.length := Nat.mul_le_mul_right _ (by omega)
      _ = (acc + 1) * Nat.pow 10 (d :: places).length := by
        rw [Nat.mul_assoc, Nat.mul_comm 10]
        rfl

lemma IsNumber.head_not_isBlank {n : Nat} (h : IsNumber n text) :
    ∀ c ∈ text.head?, isBlank c = false :=
  fun c hc => not_isBlank_of_isDecimalDigit (h.digits c (List.mem_of_mem_head? hc))

/-- A number of so many digits is below that power of ten. -/
lemma IsNumber.lt {n : Nat} (h : IsNumber n text) : n < Nat.pow 10 text.length := by
  have hplaces : ∀ d ∈ placesOf text, d < 10 := by
    intro d hd
    obtain ⟨c, -, hc⟩ := List.mem_filterMap.mp hd
    exact digitValue?_lt hc
  have hlt := valueOfDigits_lt hplaces 0
  rwa [h.value, length_placesOf h.digits, Nat.zero_add, Nat.one_mul] at hlt

end TripProposal.Text
