import Mathlib.Tactic.Common
import TripProposal.Proofs.Text.Utf8
import TripProposal.Value.Read
import TripProposal.Value.Written

/-!
# Quoted text

Quoted text is read back whether the characters beyond ASCII are escaped or stand for themselves:
each character has one spelling, and the reader takes it for that character.
-/

namespace TripProposal.Value

open Text

variable {c : CodePoint} {rest : List CodePoint} {fuel : Nat}

/-! ### Escapes -/

/-- A code unit in four hexadecimal digits. -/
def unitDigits (n : Nat) : List CodePoint :=
  [hexDigit (n / 4096), hexDigit (n / 256 % 16), hexDigit (n / 16 % 16), hexDigit (n % 16)]

/-- A character by its code units: one, or two surrogates beyond the first plane. -/
def unicodeEscape (c : CodePoint) : List CodePoint :=
  if c.toNat < 0x10000 then '\\' :: 'u' :: unitDigits c.toNat
  else .char '\\' :: .char 'u' :: unitDigits (0xD800 + (c.toNat - 0x10000) / 0x400) ++
    .char '\\' :: .char 'u' :: unitDigits (0xDC00 + (c.toNat - 0x10000) % 0x400)

/-- A character inside quotes, where those beyond printable ASCII are escaped or not. -/
def spellChar (ascii : Bool) (c : CodePoint) : List CodePoint :=
  if ascii && 0x7E < c.toNat then unicodeEscape c else escapeChar c

/-- A text in quotes. -/
def spelled (ascii : Bool) (s : Text) : List CodePoint :=
  .char '"' :: s.toList.flatMap (spellChar ascii) ++ [.char '"']

/-- Whether a text can be told from how it is spelled. Two surrogates that are escaped one by one
may be read as one character. -/
def CanSpell (ascii : Bool) (s : Text) : Prop := ascii = true → s.isEncodable = true

instance (ascii : Bool) : DecidablePred (CanSpell ascii) := fun s =>
  inferInstanceAs (Decidable (ascii = true → s.isEncodable = true))

lemma spelled_false (s : Text) : spelled false s = quoted s := rfl

lemma hexValue?_hexDigit : ∀ n < 16, hexValue? (hexDigit n) = some n := by decide

/-- Four hexadecimal digits are read back. -/
lemma codeUnit?_unitDigits {n : Nat} (h : n < 0x10000) (rest : List CodePoint) :
    codeUnit? (unitDigits n ++ rest) = some (n, rest) := by
  have hn : n / 4096 * 4096 + n / 256 % 16 * 256 + n / 16 % 16 * 16 + n % 16 = n := by omega
  simp only [unitDigits, List.cons_append, List.nil_append, codeUnit?,
    hexValue?_hexDigit _ (show n / 4096 < 16 by omega),
    hexValue?_hexDigit _ (show n / 256 % 16 < 16 by omega),
    hexValue?_hexDigit _ (show n / 16 % 16 < 16 by omega),
    hexValue?_hexDigit _ (show n % 16 < 16 by omega), hn]

/-- A pair of surrogates is read as one character. -/
lemma unicodeEscape?_pair {high low : Nat} (hhigh : 0xD800 ≤ high ∧ high ≤ 0xDBFF)
    (hlow : 0xDC00 ≤ low ∧ low ≤ 0xDFFF) (rest : List CodePoint) :
    unicodeEscape? (unitDigits high ++ .char '\\' :: .char 'u' :: (unitDigits low ++ rest)) =
      some (CodePoint.ofNat (0x10000 + (high - 0xD800) * 0x400 + (low - 0xDC00)), rest) := by
  unfold unicodeEscape?
  rw [codeUnit?_unitDigits (by omega)]
  dsimp only
  rw [if_pos hhigh]
  simp only [codeUnit?_unitDigits (show low < 0x10000 by omega), if_pos hlow]

/-- A unit that is no surrogate is read as a character. -/
lemma unicodeEscape?_single (hc : c.isChar = true) (h : c.toNat < 0x10000)
    (rest : List CodePoint) : unicodeEscape? (unitDigits c.toNat ++ rest) = some (c, rest) := by
  have hvalid := CodePoint.isChar_iff.mp hc
  unfold unicodeEscape?
  rw [codeUnit?_unitDigits h]
  dsimp only
  rw [if_neg (by omega), CodePoint.ofNat_toNat]

/-- An escape is read as its character. -/
lemma exists_unicodeEscape_append (hc : c.isChar = true) (rest : List CodePoint) :
    ∃ text, unicodeEscape c ++ rest = .char '\\' :: .char 'u' :: text ∧
      unicodeEscape? text = some (c, rest) := by
  have hvalid := CodePoint.isChar_iff.mp hc
  have hlt := c.toNat_lt
  unfold unicodeEscape
  split
  · next h => exact ⟨unitDigits c.toNat ++ rest, rfl, unicodeEscape?_single hc h rest⟩
  · next h =>
    obtain ⟨high, hhigh⟩ : ∃ high, high = (c.toNat - 0x10000) / 0x400 := ⟨_, rfl⟩
    obtain ⟨low, hlow⟩ : ∃ low, low = (c.toNat - 0x10000) % 0x400 := ⟨_, rfl⟩
    rw [← hhigh, ← hlow]
    refine ⟨unitDigits (0xD800 + high) ++ .char '\\' :: .char 'u' ::
      (unitDigits (0xDC00 + low) ++ rest), by simp, ?_⟩
    have hvalue : 0x10000 + (0xD800 + high - 0xD800) * 0x400 + (0xDC00 + low - 0xDC00) =
        c.toNat := by
      omega
    rw [unicodeEscape?_pair (by omega) (by omega), hvalue, CodePoint.ofNat_toNat]

/-! ### Reading -/

/-- A character inside quotes is read as that character, and so is a surrogate that is not
escaped. -/
lemma readQuoted_spellChar (ascii : Bool) (hc : ascii = true → c.isChar = true)
    (rest : List CodePoint) :
    readQuoted (fuel + 1) (spellChar ascii c ++ rest) =
      (readQuoted fuel rest).map fun (cs, after) => (c :: cs, after) := by
  unfold spellChar
  split
  · next hascii =>
    obtain ⟨text, htext, hescape⟩ :=
      exists_unicodeEscape_append (hc (Bool.and_eq_true_iff.mp hascii).1) rest
    rw [htext, readQuoted, hescape]
  -- The characters with an escape of their own come first, then control characters.
  · unfold escapeChar
    split
    · rfl
    · rfl
    · rfl
    · rfl
    · rfl
    · rfl
    · rfl
    · next hquote hbackslash _ _ _ _ _ =>
      split
      · next hcontrol =>
        have hdigits : [.char '0', .char '0', hexDigit (c.toNat / 16), hexDigit (c.toNat % 16)] =
            unitDigits c.toNat := by
          have hfirst : c.toNat / 4096 = 0 := by omega
          have hsecond : c.toNat / 256 % 16 = 0 := by omega
          have hthird : c.toNat / 16 % 16 = c.toNat / 16 := by omega
          rw [unitDigits, hfirst, hsecond, hthird]
          rfl
        rw [hdigits, List.cons_append, List.cons_append, readQuoted,
          unicodeEscape?_single (CodePoint.isChar_iff.mpr (by omega)) (by omega)]
      · next hprinted =>
        rw [List.singleton_append, readQuoted, if_neg hprinted]
        · exact hquote
        · exact fun _ hc _ => hbackslash hc
        · exact fun _ _ hc _ => hbackslash hc
        · exact fun hc _ => hbackslash hc

/-- A text in quotes is read as that text. -/
lemma readQuoted_flatMap (ascii : Bool) {cs : List CodePoint}
    (hcs : ascii = true → cs.all CodePoint.isChar = true) (rest : List CodePoint)
    (hfuel : cs.length < fuel) :
    readQuoted fuel (cs.flatMap (spellChar ascii) ++ .char '"' :: rest) = some (cs, rest) := by
  induction cs generalizing fuel with
  | nil =>
    obtain ⟨fuel, rfl⟩ := Nat.exists_eq_add_one_of_ne_zero (Nat.ne_of_gt hfuel)
    rfl
  | cons c cs ih =>
    simp only [List.all_cons, Bool.and_eq_true, imp_and] at hcs
    rw [List.length_cons] at hfuel
    obtain ⟨fuel, rfl⟩ := Nat.exists_eq_add_one_of_ne_zero (Nat.ne_of_gt (Nat.zero_lt_of_lt hfuel))
    rw [List.flatMap_cons, List.append_assoc, readQuoted_spellChar ascii hcs.1, ih hcs.2 (by omega)]
    rfl

/-- A text stands between its quotes. -/
lemma spelled_append (ascii : Bool) (s : Text) (rest : List CodePoint) :
    spelled ascii s ++ rest =
      .char '"' :: (s.toList.flatMap (spellChar ascii) ++ .char '"' :: rest) := by
  simp [spelled]

lemma spellChar_ne_nil (ascii : Bool) (c : CodePoint) : spellChar ascii c ≠ [] := by
  unfold spellChar
  split
  · unfold unicodeEscape
    split <;> exact List.cons_ne_nil _ _
  · unfold escapeChar
    split
    case h_8 => split <;> exact List.cons_ne_nil _ _
    all_goals exact List.cons_ne_nil _ _

/-- Every character is spelled with one character at least. -/
lemma length_add_two_le_spelled (ascii : Bool) (s : Text) :
    s.toList.length + 2 ≤ (spelled ascii s).length := by
  have hflat : ∀ cs : List CodePoint, cs.length ≤ (cs.flatMap (spellChar ascii)).length := by
    intro cs
    induction cs with
    | nil => exact Nat.le_refl 0
    | cons c cs ih =>
      have hc := List.length_pos_iff.mpr (spellChar_ne_nil ascii c)
      rw [List.flatMap_cons, List.length_append, List.length_cons]
      omega
  have hs := hflat s.toList
  simp only [spelled, List.cons_append, List.length_cons, List.length_append, List.length_nil]
  omega

end TripProposal.Value
