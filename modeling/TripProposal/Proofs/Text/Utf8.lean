import Mathlib.Tactic.Common
import TripProposal.Text.Utf8

/-!
# UTF-8 round trip

Decoding the bytes of a text gives the text back. The bytes of one character are read in one go,
whatever follows them.
-/

namespace TripProposal.Text

/-! ### Bytes -/

/-- Code points are encoded in bytes. -/
lemma lt_of_mem_utf8Bytes {c : CodePoint} {b : Nat} (h : b ∈ utf8Bytes c) : b < 256 := by
  have hc := c.toNat_lt
  unfold utf8Bytes at h
  simp only at h
  split at h
  · simp only [List.mem_singleton] at h
    omega
  · split at h
    · simp only [List.mem_cons, List.not_mem_nil, or_false] at h
      omega
    · split at h <;> simp only [List.mem_cons, List.not_mem_nil, or_false] at h <;> omega

/-! ### Lead bytes -/

/-- The lead of two bytes is recognised. -/
lemma leadOf?_two {n : Nat} (h : 0x80 ≤ n) (h' : n < 0x800) :
    leadOf? (0xC0 + n / 0x40) = some ⟨n / 0x40, 1, 0x80, 0xBF⟩ := by
  have hlead : 0xC2 ≤ 0xC0 + n / 0x40 ∧ 0xC0 + n / 0x40 ≤ 0xDF := by omega
  rw [leadOf?, if_neg (by omega), if_pos hlead, Nat.add_sub_cancel_left]

/-- The bounds that a lead byte of three sets for the byte behind it hold for every character. -/
lemma leadOf?_three {n : Nat} (h : 0x800 ≤ n) (h' : n < 0x10000)
    (hs : n < 0xD800 ∨ 0xDFFF < n) :
    ∃ least greatest, leadOf? (0xE0 + n / 0x1000) = some ⟨n / 0x1000, 2, least, greatest⟩ ∧
      least ≤ 0x80 + n / 0x40 % 0x40 ∧ 0x80 + n / 0x40 % 0x40 ≤ greatest := by
  unfold leadOf?
  rw [if_neg (by omega), if_neg (by omega)]
  split
  · exact ⟨_, _, by rw [show n / 0x1000 = 0 by omega], by omega, by omega⟩
  · split
    · exact ⟨_, _, by rw [show n / 0x1000 = 0xD by omega], by omega, by omega⟩
    · rw [if_pos (by omega), Nat.add_sub_cancel_left]
      exact ⟨_, _, rfl, by omega, by omega⟩

/-- The lead of four bytes is recognised, and the byte behind it is within its bounds. -/
lemma leadOf?_four {n : Nat} (h : 0x10000 ≤ n) (h' : n < 0x110000) :
    ∃ least greatest, leadOf? (0xF0 + n / 0x40000) = some ⟨n / 0x40000, 3, least, greatest⟩ ∧
      least ≤ 0x80 + n / 0x1000 % 0x40 ∧ 0x80 + n / 0x1000 % 0x40 ≤ greatest := by
  unfold leadOf?
  rw [if_neg (by omega), if_neg (by omega), if_neg (by omega), if_neg (by omega),
    if_neg (by omega)]
  split
  · exact ⟨_, _, by rw [show n / 0x40000 = 0 by omega], by omega, by omega⟩
  · split
    · exact ⟨_, _, by rw [show n / 0x40000 = 4 by omega], by omega, by omega⟩
    · rw [if_pos (by omega), Nat.add_sub_cancel_left]
      exact ⟨_, _, rfl, by omega, by omega⟩

/-! ### Following bytes -/

/-- The last byte of a sequence completes the character. -/
lemma decodeFrom_last {lead : Lead} {b : Nat} (h : lead.least ≤ b) (h' : b ≤ lead.greatest)
    (hf : lead.follow = 1) (rest : List Nat) :
    decodeFrom (some lead) (b :: rest) =
      CodePoint.ofNat (lead.bits * 0x40 + (b - 0x80)) :: decodeFrom none rest := by
  rw [decodeFrom, if_pos ⟨h, h'⟩]
  simp [hf]

/-- A byte in between adds its bits. -/
lemma decodeFrom_next {lead : Lead} {b : Nat} (h : lead.least ≤ b) (h' : b ≤ lead.greatest)
    (hf : 1 < lead.follow) (rest : List Nat) :
    decodeFrom (some lead) (b :: rest) = decodeFrom
      (some ⟨lead.bits * 0x40 + (b - 0x80), lead.follow - 1, 0x80, 0xBF⟩) rest := by
  rw [decodeFrom, if_pos ⟨h, h'⟩]
  simp [Nat.not_le.mpr hf]

/-- A lead starts a sequence. -/
lemma decodeFrom_lead {lead : Lead} {b : Nat} (h : leadOf? b = some lead) (hf : lead.follow ≠ 0)
    (rest : List Nat) : decodeFrom none (b :: rest) = decodeFrom (some lead) rest := by
  rw [decodeFrom, h]
  simp [hf]

/-! ### Round trip -/

/-- The bytes of a character are read as the character. -/
lemma decodeFrom_utf8Bytes {c : CodePoint} (h : c.isChar = true) (rest : List Nat) :
    decodeFrom none (utf8Bytes c ++ rest) = c :: decodeFrom none rest := by
  have hc := CodePoint.isChar_iff.mp h
  have hlt := c.toNat_lt
  have hofNat : ∀ n, n = c.toNat → CodePoint.ofNat n = c :=
    fun n hn => by rw [hn, CodePoint.ofNat_toNat]
  -- By the number of bytes; in each case the bits put together are the code point.
  unfold utf8Bytes
  simp only
  split
  · next h1 =>
    rw [List.cons_append, decodeFrom, leadOf?, if_pos h1]
    simp [CodePoint.ofNat_toNat]
  · next h1 =>
    split
    · next h2 =>
      have hlead := leadOf?_two (Nat.not_lt.mp h1) h2
      simp only [List.cons_append, List.nil_append]
      rw [decodeFrom_lead hlead (by simp), decodeFrom_last (by simp) (by simp; omega) rfl,
        hofNat _ (by simp; omega)]
    · next h2 =>
      split
      · next h3 =>
        obtain ⟨least, greatest, hlead, hl, hg⟩ := leadOf?_three (Nat.not_lt.mp h2) h3 (by omega)
        simp only [List.cons_append, List.nil_append]
        rw [decodeFrom_lead hlead (by simp), decodeFrom_next hl hg (by simp),
          decodeFrom_last (by simp) (by simp; omega) rfl, hofNat _ (by simp; omega)]
      · next h3 =>
        obtain ⟨least, greatest, hlead, hl, hg⟩ := leadOf?_four (Nat.not_lt.mp h3) (by omega)
        simp only [List.cons_append, List.nil_append]
        rw [decodeFrom_lead hlead (by simp), decodeFrom_next hl hg (by simp),
          decodeFrom_next (by simp) (by simp; omega) (by simp),
          decodeFrom_last (by simp) (by simp; omega) rfl, hofNat _ (by simp; omega)]

/-- Decoding the bytes of a text of characters gives the text. -/
theorem decodeUtf8_flatMap {text : List CodePoint} (h : text.all CodePoint.isChar = true) :
    decodeUtf8 (text.flatMap utf8Bytes) = text := by
  rw [decodeUtf8]
  induction text with
  | nil => rfl
  | cons c text ih =>
    rw [List.all_cons, Bool.and_eq_true] at h
    rw [List.flatMap_cons, decodeFrom_utf8Bytes h.1, ih h.2]

end TripProposal.Text
