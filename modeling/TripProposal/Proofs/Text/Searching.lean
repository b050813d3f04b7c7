import Mathlib.Data.List.Basic
import Mathlib.Data.List.DropRight
import Mathlib.Data.List.TakeWhile
import Mathlib.Tactic.Common
import TripProposal.Text.Blank
import TripProposal.Text.Search

/-!
# Searching known texts

What the searches of `TripProposal.Text` find when the text is put together from known parts.
-/

namespace TripProposal.Text

/-! ### Prefixes -/

@[simp] lemma isPrefixOf?_append (pattern rest : List CodePoint) :
    pattern.isPrefixOf? (pattern ++ rest) = some rest := by
  induction pattern with
  | nil => rfl
  | cons c pattern ih => simp [List.isPrefixOf?, ih]

lemma isPrefixOf_append (pattern rest : List CodePoint) :
    pattern.isPrefixOf (pattern ++ rest) = true :=
  List.isPrefixOf_iff_prefix.mpr (List.prefix_append _ _)

lemma isPrefixOf?_eq_none {pattern text : List CodePoint} (h : pattern.isPrefixOf text = false) :
    pattern.isPrefixOf? text = none := by
  cases hp : pattern.isPrefixOf? text with
  | none => rfl
  | some after =>
    rw [isPrefixOf?_eq_some_append hp, isPrefixOf_append] at h
    cases h

/-- Texts that start differently have no common front. -/
lemma isPrefixOf?_eq_none_of_head? {pattern text : List CodePoint} {c d : CodePoint}
    (hp : pattern.head? = some c) (ht : text.head? = some d) (hne : c ≠ d) :
    pattern.isPrefixOf? text = none := by
  obtain ⟨pattern, rfl⟩ := List.head?_eq_some_iff.mp hp
  obtain ⟨text, rfl⟩ := List.head?_eq_some_iff.mp ht
  simp [List.isPrefixOf?, hne]

/-- A text that does not start with the start of a pattern does not start with the pattern. -/
lemma isPrefixOf_eq_false_of_start {start pattern text : List CodePoint} (hs : start <+: pattern)
    (h : start.isPrefixOf text = false) : pattern.isPrefixOf text = false := by
  rw [← Bool.not_eq_true, List.isPrefixOf_iff_prefix] at h ⊢
  exact fun hp => h (hs.trans hp)

/-- A pattern without some character does not reach over it. -/
lemma prefix_append_cons_iff {stop : CodePoint} {pattern text rest : List CodePoint}
    (hs : stop ∉ pattern) :
    pattern <+: text ++ stop :: rest ↔ pattern <+: text := by
  constructor
  · intro h
    rcases List.prefix_or_prefix_of_prefix h (List.prefix_append text _) with h' | ⟨t, rfl⟩
    · exact h'
    · rw [List.prefix_append_right_inj] at h
      cases t with
      | nil => simp
      | cons d t =>
        obtain rfl : d = stop := (List.cons_prefix_cons.mp h).1
        simp at hs
  · exact fun h => h.trans (List.prefix_append text _)

/-- What stands before the first occurrence of a character is determined. -/
lemma eq_of_append_cons_eq {stop : CodePoint} {a b x y : List CodePoint} (ha : stop ∉ a)
    (hb : stop ∉ b) (h : a ++ stop :: x = b ++ stop :: y) : a = b := by
  induction a generalizing b with
  | nil =>
    cases b with
    | nil => rfl
    | cons d b => simp_all
  | cons c a ih =>
    cases b with
    | nil => simp_all
    | cons d b =>
      simp only [List.mem_cons, not_or, List.cons_append, List.cons.injEq] at ha hb h
      rw [h.1, ih ha.2 hb.2 h.2]

/-! ### Cutting -/

/-- A pattern at the front is found there. -/
lemma cut?_append_of_head {pattern rest : List CodePoint} (h : pattern ≠ []) :
    cut? pattern (pattern ++ rest) = some ([], rest) := by
  cases pattern with
  | nil => exact absurd rfl h
  | cons c pattern =>
    have hp : (c :: pattern).isPrefixOf? (c :: (pattern ++ rest)) = some rest :=
      isPrefixOf?_append (c :: pattern) rest
    simp only [List.cons_append, cut?, hp]

/-- A pattern that is not at the front is looked for behind it. -/
lemma cut?_cons_of_not {pattern rest : List CodePoint} {c : CodePoint}
    (h : pattern.isPrefixOf (c :: rest) = false) :
    cut? pattern (c :: rest) =
      (cut? pattern rest).map fun (before, after) => (c :: before, after) := by
  simp only [cut?, isPrefixOf?_eq_none h]

/-- The first occurrence of a pattern is not before the first occurrence of one of its
characters. -/
lemma cut?_append_of_notMem {mark : CodePoint} {pattern before : List CodePoint}
    (hm : mark ∉ before) (rest : List CodePoint) :
    cut? (mark :: pattern) (before ++ rest) =
      (cut? (mark :: pattern) rest).map fun (b, a) => (before ++ b, a) := by
  induction before with
  | nil => simp
  | cons c before ih =>
    simp only [List.mem_cons, not_or] at hm
    have hp : (mark :: pattern).isPrefixOf (c :: (before ++ rest)) = false := by
      simp [List.isPrefixOf_cons_cons, hm.1]
    rw [List.cons_append, cut?_cons_of_not hp, ih hm.2, Option.map_map]
    rfl

/-! ### Splitting -/

section Splitting

variable {mark : CodePoint} {text : List CodePoint}

lemma splitAtMark_ne_nil (mark : CodePoint) (text : List CodePoint) :
    splitAtMark mark text ≠ [] := by
  induction text with
  | nil => simp [splitAtMark]
  | cons c text ih =>
    rw [splitAtMark]
    split
    · simp
    · split <;> simp

lemma splitAtMark_of_notMem (h : mark ∉ text) : splitAtMark mark text = [text] := by
  induction text with
  | nil => rfl
  | cons c text ih =>
    simp only [List.mem_cons, not_or] at h
    rw [splitAtMark, if_neg (Ne.symm h.1), ih h.2]

/-- The first mark ends the first piece. -/
lemma splitAtMark_append (h : mark ∉ text) (rest : List CodePoint) :
    splitAtMark mark (text ++ mark :: rest) = text :: splitAtMark mark rest := by
  induction text with
  | nil => simp [splitAtMark]
  | cons c text ih =>
    simp only [List.mem_cons, not_or] at h
    rw [List.cons_append, splitAtMark, if_neg (Ne.symm h.1), ih h.2]

/-- Splitting undoes joining when no piece has the mark. -/
lemma splitAtMark_intercalate {pieces : List (List CodePoint)} (hne : pieces ≠ [])
    (h : ∀ piece ∈ pieces, mark ∉ piece) :
    splitAtMark mark (List.intercalate [mark] pieces) = pieces := by
  induction pieces with
  | nil => exact absurd rfl hne
  | cons piece pieces ih =>
    have hpiece := h piece List.mem_cons_self
    cases pieces with
    | nil =>
      rw [List.intercalate_singleton]
      exact splitAtMark_of_notMem hpiece
    | cons next pieces =>
      rw [List.intercalate_cons_cons, List.append_assoc, List.singleton_append,
        splitAtMark_append hpiece, ih (by simp) fun p hp => h p (List.mem_cons_of_mem _ hp)]

/-- Joining undoes splitting. -/
lemma intercalate_splitAtMark (mark : CodePoint) (text : List CodePoint) :
    List.intercalate [mark] (splitAtMark mark text) = text := by
  induction text with
  | nil => rfl
  | cons c text ih =>
    rw [splitAtMark]
    cases hs : splitAtMark mark text with
    | nil => exact absurd hs (splitAtMark_ne_nil mark text)
    | cons piece pieces =>
      rw [hs] at ih
      by_cases hc : c = mark
      · rw [if_pos hc, List.intercalate_cons_cons, ih, hc]
        rfl
      · rw [if_neg hc]
        cases pieces with
        | nil =>
          rw [List.intercalate_singleton] at ih ⊢
          rw [ih]
        | cons next pieces =>
          rw [List.intercalate_cons_cons] at ih ⊢
          rw [← ih]
          rfl

end Splitting

/-! ### Replacing -/

section Replacing

variable {pattern replacement : List CodePoint}

/-- What belongs to a replaced pattern is skipped. -/
lemma replaceFrom_skip (skipped rest : List CodePoint) :
    replaceFrom pattern replacement skipped.length (skipped ++ rest) =
      replaceFrom pattern replacement 0 rest := by
  induction skipped with
  | nil => rfl
  | cons c skipped ih => simpa [replaceFrom] using ih

/-- A pattern at the front is replaced. -/
lemma replaceFrom_append_self (h : pattern ≠ []) (rest : List CodePoint) :
    replaceFrom pattern replacement 0 (pattern ++ rest) =
      replacement ++ replaceFrom pattern replacement 0 rest := by
  cases pattern with
  | nil => exact absurd rfl h
  | cons c pattern =>
    have hp : (c :: pattern).isPrefixOf (c :: (pattern ++ rest)) = true :=
      isPrefixOf_append (c :: pattern) rest
    simp only [List.cons_append, replaceFrom, hp, if_true, List.length_cons, Nat.add_sub_cancel]
    rw [replaceFrom_skip]

/-- Without a pattern at the front the character stays. -/
lemma replaceFrom_cons_of_not {c : CodePoint} {rest : List CodePoint}
    (h : pattern.isPrefixOf (c :: rest) = false) :
    replaceFrom pattern replacement 0 (c :: rest) =
      c :: replaceFrom pattern replacement 0 rest := by
  simp [replaceFrom, h]

/-- Replacing stops and starts anew at a character that the pattern does not have. -/
lemma replaceFrom_append_cons {stop : CodePoint} (hs : stop ∉ pattern) (hp : pattern ≠ [])
    (text rest : List CodePoint) (skip : Nat) (hskip : skip ≤ text.length) :
    replaceFrom pattern replacement skip (text ++ stop :: rest) =
      replaceFrom pattern replacement skip text ++
        stop :: replaceFrom pattern replacement 0 rest := by
  induction text generalizing skip with
  | nil =>
    obtain rfl : skip = 0 := by simpa using hskip
    have hf : pattern.isPrefixOf (stop :: rest) = false := by
      cases pattern with
      | nil => exact absurd rfl hp
      | cons p pattern =>
        simp only [List.mem_cons, not_or] at hs
        simp [List.isPrefixOf_cons_cons, Ne.symm hs.1]
    simp [replaceFrom_cons_of_not hf, replaceFrom]
  | cons c text ih =>
    cases skip with
    | succ skip => simpa [replaceFrom] using ih skip (by simpa using hskip)
    | zero =>
      -- The pattern has no stop, so it is in front of the whole when it is in front of the text.
      have hiff : pattern.isPrefixOf (c :: (text ++ stop :: rest)) =
          pattern.isPrefixOf (c :: text) := by
        rw [Bool.eq_iff_iff, List.isPrefixOf_iff_prefix, List.isPrefixOf_iff_prefix]
        rw [← List.cons_append, prefix_append_cons_iff hs]
      by_cases h : pattern.isPrefixOf (c :: text) = true
      · have hlen : pattern.length - 1 ≤ text.length := by
          have := (List.isPrefixOf_iff_prefix.mp h).length_le
          simp only [List.length_cons] at this
          omega
        simp only [List.cons_append, replaceFrom, hiff, h, if_true, ih _ hlen, List.append_assoc]
      · rw [Bool.not_eq_true] at h
        rw [List.cons_append, replaceFrom_cons_of_not (hiff.trans h),
          replaceFrom_cons_of_not h, ih 0 (Nat.zero_le _), List.cons_append]

/-- Nothing is replaced where the mark does not occur. -/
lemma replaceAll_append_of_notMem {mark : CodePoint} {before : List CodePoint} (h : mark ∉ before)
    (rest : List CodePoint) : replaceAll [mark] replacement (before ++ rest) =
      before ++ replaceAll [mark] replacement rest := by
  induction before with
  | nil => rfl
  | cons c before ih =>
    rw [List.mem_cons, not_or] at h
    have hfirst : [mark].isPrefixOf (c :: (before ++ rest)) = false := by
      simp [List.isPrefixOf_cons_cons, h.1]
    rw [List.cons_append, replaceAll, replaceFrom_cons_of_not hfirst, List.cons_append]
    exact congrArg (c :: ·) (ih h.2)

end Replacing

/-! ### Runs -/

/-- A text is cut where the run of characters in front of it ends. -/
lemma takeWhile_dropWhile_iff {p : CodePoint → Bool} {text run rest : List CodePoint} :
    (text.takeWhile p = run ∧ text.dropWhile p = rest) ↔
      text = run ++ rest ∧ (∀ c ∈ run, p c = true) ∧ ∀ c ∈ rest.head?, p c = false := by
  constructor
  · rintro ⟨rfl, rfl⟩
    refine ⟨List.takeWhile_append_dropWhile.symm, fun c hc => List.mem_takeWhile_imp hc, ?_⟩
    intro c hc
    have hhead := List.head?_dropWhile_not p text
    rw [Option.mem_def.mp hc] at hhead
    simpa using hhead
  · rintro ⟨rfl, hrun, hrest⟩
    rw [List.takeWhile_append_of_pos hrun, List.dropWhile_append_of_pos hrun]
    cases rest with
    | nil => simp
    | cons c rest => simp [hrest c rfl]

/-! ### Trimming -/

/-- Blanks in front do not count. -/
lemma trim_blanks_append {before : List CodePoint} (hb : ∀ c ∈ before, isBlank c = true)
    (text : List CodePoint) : trim (before ++ text) = trim text := by
  rw [trim, List.dropWhile_append_of_pos hb, trim]

/-- Nor do blanks behind. -/
lemma trim_append_blanks {after : List CodePoint} (ha : ∀ c ∈ after, isBlank c = true)
    (text : List CodePoint) : trim (text ++ after) = trim text := by
  unfold trim
  rw [List.dropWhile_append]
  split
  · next hempty =>
    rw [List.dropWhile_eq_nil_iff.mpr ha, List.isEmpty_iff.mp hempty]
  · rw [List.reverse_append, List.dropWhile_append_of_pos fun c hc => ha c (List.mem_reverse.mp hc)]

/-- A text with no blank at its ends is left as it is. -/
lemma trim_eq_self {text : List CodePoint} (hhead : ∀ c ∈ text.head?, isBlank c = false)
    (hlast : ∀ c ∈ text.getLast?, isBlank c = false) : trim text = text := by
  have hdrop : text.dropWhile isBlank = text := by
    cases text with
    | nil => rfl
    | cons c text => simp [hhead c (by simp)]
  have hrdrop : text.rdropWhile isBlank = text := by
    rw [List.rdropWhile_eq_self_iff]
    intro hne
    simp [hlast _ (List.getLast_mem_getLast? hne)]
  rw [trim, hdrop]
  exact hrdrop

/-- What trimming leaves is followed by the blanks behind. -/
lemma exists_dropWhile_eq_trim_append (text : List CodePoint) :
    ∃ after, (∀ c ∈ after, isBlank c = true) ∧ text.dropWhile isBlank = trim text ++ after := by
  refine ⟨((text.dropWhile isBlank).reverse.takeWhile isBlank).reverse, ?_, ?_⟩
  · intro c hc
    exact List.mem_takeWhile_imp (List.mem_reverse.mp hc)
  · rw [trim, ← List.reverse_append, List.takeWhile_append_dropWhile, List.reverse_reverse]

/-- A trimmed text starts with no blank. -/
lemma head?_trim (text : List CodePoint) : ∀ c ∈ (trim text).head?, isBlank c = false := by
  obtain ⟨after, -, hdrop⟩ := exists_dropWhile_eq_trim_append text
  obtain ⟨-, -, hhead⟩ := takeWhile_dropWhile_iff.mp (And.intro rfl hdrop)
  intro c hc
  exact hhead c (List.mem_head?_append_of_mem_head? hc)

/-- It ends in none. -/
lemma getLast?_trim (text : List CodePoint) : ∀ c ∈ (trim text).getLast?, isBlank c = false := by
  intro c hc
  rw [trim, List.getLast?_reverse] at hc
  have hhead := List.head?_dropWhile_not isBlank (text.dropWhile isBlank).reverse
  rw [Option.mem_def.mp hc] at hhead
  simpa using hhead

lemma getLast?_of_trim_eq_self {text : List CodePoint} (h : trim text = text) :
    ∀ c ∈ text.getLast?, isBlank c = false :=
  h ▸ getLast?_trim text

lemma trim_trim (text : List CodePoint) : trim (trim text) = trim text :=
  trim_eq_self (head?_trim text) (getLast?_trim text)

/-- Nothing remains of blanks only. -/
lemma trim_eq_nil_iff {text : List CodePoint} : trim text = [] ↔ ∀ c ∈ text, isBlank c = true := by
  constructor
  · intro h c hc
    obtain ⟨after, hafter, hdrop⟩ := exists_dropWhile_eq_trim_append text
    rw [h, List.nil_append] at hdrop
    obtain ⟨htext, hbefore, -⟩ := takeWhile_dropWhile_iff.mp ⟨rfl, hdrop⟩
    rw [htext, List.mem_append] at hc
    exact hc.elim (hbefore c) (hafter c)
  · intro h
    exact trim_append_blanks h []

lemma trim_subset (text : List CodePoint) : trim text ⊆ text := by
  have hsub := List.reverse_sublist.mpr
    (List.dropWhile_sublist isBlank (l := (text.dropWhile isBlank).reverse))
  rw [List.reverse_reverse] at hsub
  exact (hsub.trans (List.dropWhile_sublist isBlank)).subset

end TripProposal.Text
