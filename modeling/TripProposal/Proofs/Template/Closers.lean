import Mathlib.Order.Bounds.Defs
import TripProposal.Proofs.Template.Nesting
import TripProposal.Proofs.Text.Occurrences

/-!
# Closers of blocks

The search for the closer of a block passes over opener after opener and closer after closer. No two
of these delimiters overlap, so none is skipped and none is counted twice: the search finds the
first closer before which there are as many openers as closers.
-/

namespace TripProposal.Template

open Text

variable {p q : Nat → Prop} {found : Option Nat} {c : CodePoint} {text rest pattern : List CodePoint}
  {kind : BlockKind} {depth n m : Nat}

/-! ### First positions -/

/-- What a search for a property finds: the first position that has it, and nothing when there is
none. -/
def IsFirst (p : Nat → Prop) : Option Nat → Prop
  | some n => IsLeast {m | p m} n
  | none => ∀ m, ¬ p m

namespace IsFirst

/-- Only what holds at the positions counts. -/
lemma congr (h : IsFirst p found) (hpq : ∀ m, q m ↔ p m) : IsFirst q found := by
  rwa [show q = p from funext fun m => propext (hpq m)]

lemma zero (h : p 0) : IsFirst p (some 0) :=
  ⟨h, fun m _ => Nat.zero_le m⟩

/-- A search behind the first positions of a text, none of which has the property. -/
lemma shift (h : IsFirst (fun m => p (m + n)) found) (hno : ∀ m < n, ¬ p m) :
    IsFirst p (shift n found) := by
  have hbehind : ∀ m, p m → ∃ k, m = k + n := by
    intro m hm
    have hle : n ≤ m := Nat.not_lt.mp fun hlt => hno m hlt hm
    exact ⟨m - n, (Nat.sub_add_cancel hle).symm⟩
  cases found with
  | none =>
    intro m hm
    obtain ⟨k, rfl⟩ := hbehind m hm
    exact h k hm
  | some k =>
    refine ⟨h.1, fun m hm => ?_⟩
    obtain ⟨k', rfl⟩ := hbehind m hm
    exact Nat.add_le_add_right (h.2 hm) n

/-- Without a hit at the front the search goes on behind it. -/
lemma shift_one (h : IsFirst (fun m => p (m + 1)) found) (hno : ¬ p 0) :
    IsFirst p (Template.shift 1 found) :=
  h.shift fun m hm => by rwa [Nat.lt_one_iff.mp hm]

/-- The search finds the least position. -/
lemma eq_some_iff (h : IsFirst p found) : found = some n ↔ IsLeast {m | p m} n := by
  cases found with
  | none =>
    constructor
    · intro heq
      cases heq
    · intro hn
      exact absurd hn.1 (h n)
  | some k =>
    constructor
    · intro heq
      exact Option.some.inj heq ▸ h
    · intro hn
      exact congrArg some (Nat.le_antisymm (h.2 hn.1) (hn.2 h.1))

/-- It fails when there is none. -/
lemma eq_none_iff (h : IsFirst p found) : found = none ↔ ∀ m, ¬ p m := by
  cases found with
  | none => exact iff_of_true rfl h
  | some n => exact iff_of_false nofun fun hno => hno n h.1

end IsFirst

/-! ### Delimiters do not overlap -/

/-- A text that starts a tag, and no other tag inside of itself. -/
def IsDelimiter (pattern : List CodePoint) : Prop := openMark <+: pattern ∧ IsInert pattern.tail

instance : DecidablePred IsDelimiter := fun pattern =>
  inferInstanceAs (Decidable (openMark <+: pattern ∧ IsInert pattern.tail))

/-- Openers start with braces and have none inside. -/
lemma isDelimiter_opener (kind : BlockKind) : IsDelimiter kind.opener := by
  cases kind <;> decide

lemma isDelimiter_closer (kind : BlockKind) : IsDelimiter kind.closer := by
  cases kind <;> decide

lemma IsInert.drop (h : IsInert text) (n : Nat) : IsInert (text.drop n) := by
  induction n generalizing text with
  | zero => exact h
  | succ n ih =>
    cases text with
    | nil => exact h
    | cons c text => exact ih h.tail

namespace IsDelimiter

lemma ne_nil (h : IsDelimiter pattern) : pattern ≠ [] := by
  rintro rfl
  exact absurd h.1 (by decide)

/-- A delimiter ends before the next tag starts. -/
lemma length_le (h : IsDelimiter pattern) (hstart : pattern <+: c :: text)
    (hopen : openMark <+: text.drop n) : pattern.length ≤ n + 1 := by
  obtain ⟨d, tail, rfl⟩ := List.exists_cons_of_ne_nil h.ne_nil
  obtain ⟨rest, rfl⟩ := (List.cons_prefix_cons.mp hstart).2
  rw [List.length_cons, Nat.add_le_add_iff_right]
  by_contra hlt
  have hdrop : (tail ++ rest).drop n = tail.drop n ++ rest :=
    List.drop_append_of_le_length (Nat.le_of_not_le hlt)
  cases hinside : tail.drop n with
  | nil => exact hlt (List.drop_eq_nil_iff.mp hinside)
  | cons e inside =>
    have hinert : IsInert (e :: inside) := hinside ▸ h.2.drop n
    rw [hdrop, hinside, ← List.isPrefixOf_iff_prefix, List.cons_append, hinert.not_open rest]
      at hopen
    cases hopen

/-- A tag that stands further on does not take part in what a text starts with. -/
lemma prefix_take_iff (h : IsDelimiter pattern) (hopen : openMark <+: text.drop n) :
    pattern <+: (c :: text).take (n + 1) ↔ pattern <+: c :: text := by
  rw [List.prefix_take_iff, and_iff_left_iff_imp]
  exact fun hstart => h.length_le hstart hopen

end IsDelimiter

/-- No text starts with an opener and a closer. -/
lemma not_closer_of_opener {kind' : BlockKind} (h : kind.opener <+: text) :
    ¬ kind'.closer <+: text := by
  obtain ⟨rest, rfl⟩ := h
  have hno : kind'.closer.isPrefixOf (kind.opener ++ rest) = false := rfl
  rwa [← List.isPrefixOf_iff_prefix, Bool.not_eq_true]

/-! ### Openers less closers -/

/-- What the start of a text adds to the openers less the closers of a kind. -/
def gain (kind : BlockKind) (text : List CodePoint) : Int :=
  (if kind.opener <+: text then 1 else 0) - (if kind.closer <+: text then 1 else 0)

/-- An opener opens one block. -/
lemma gain_of_opener (h : kind.opener <+: text) : gain kind text = 1 := by
  rw [gain, if_pos h, if_neg (not_closer_of_opener h)]
  rfl

/-- A closer closes one block. -/
lemma gain_of_closer (h : kind.closer <+: text) : gain kind text = -1 := by
  rw [gain, if_pos h, if_neg fun ho => not_closer_of_opener ho h]
  rfl

lemma gain_of_other (ho : ¬ kind.opener <+: text) (hc : ¬ kind.closer <+: text) :
    gain kind text = 0 := by
  rw [gain, if_neg ho, if_neg hc]
  rfl

/-- The marks of a prefix are those of the text, if the prefix ends in front of a tag. -/
lemma gain_take (hopen : openMark <+: text.drop n) :
    gain kind ((c :: text).take (n + 1)) = gain kind (c :: text) := by
  simp only [gain, (isDelimiter_opener kind).prefix_take_iff hopen,
    (isDelimiter_closer kind).prefix_take_iff hopen]

/-- The openers less the closers of a kind in a text. -/
def surplus (kind : BlockKind) (text : List CodePoint) : Int :=
  occurrences kind.opener text - occurrences kind.closer text

@[simp] lemma surplus_nil (kind : BlockKind) : surplus kind [] = 0 := by
  simp [surplus, opener_ne_nil, closer_ne_nil]

/-- Marks are counted at each position. -/
lemma surplus_cons (kind : BlockKind) (c : CodePoint) (text : List CodePoint) :
    surplus kind (c :: text) = gain kind (c :: text) + surplus kind text := by
  simp only [surplus, gain, occurrences_cons]
  split <;> split <;> omega

/-- Counting up to a tag goes on one character after the other. -/
lemma surplus_take (hopen : openMark <+: text.drop n) :
    surplus kind ((c :: text).take (n + 1)) =
      gain kind (c :: text) + surplus kind (text.take n) := by
  rw [← gain_take hopen, List.take_succ_cons, surplus_cons]

/-! ### One character after the other -/

/-- Behind the first character of a delimiter nothing is found before its end. -/
lemma shift_closeAt_delimiter (h : IsDelimiter pattern) (hrest : pattern ++ rest = c :: text) :
    shift pattern.length (closeAt kind depth rest) = shift 1 (closeAt kind depth text) := by
  obtain ⟨d, tail, rfl⟩ := List.exists_cons_of_ne_nil h.ne_nil
  obtain rfl := (List.cons.inj hrest).2
  have hinert : IsInert tail := h.2
  rw [List.append_eq, closeAt_inert hinert, shift_shift, List.length_cons, Nat.add_comm]

/-- A closer ends the innermost block. -/
lemma closeAt_of_closer (h : kind.closer <+: c :: text) :
    closeAt kind (depth + 1) (c :: text) = shift 1 (closeAt kind depth text) := by
  obtain ⟨rest, hrest⟩ := h
  rw [← shift_closeAt_delimiter (isDelimiter_closer kind) hrest, ← hrest, closeAt_closer]

/-- An opener starts a block that has to end first. -/
lemma closeAt_of_opener (h : kind.opener <+: c :: text) :
    closeAt kind depth (c :: text) = shift 1 (closeAt kind (depth + 1) text) := by
  have hcloser : ¬ kind.closer <+: c :: text := not_closer_of_opener h
  obtain ⟨rest, hrest⟩ := h
  rw [← shift_closeAt_delimiter (isDelimiter_opener kind) hrest, ← hrest]
  rw [← hrest, ← List.isPrefixOf_iff_prefix, Bool.not_eq_true] at hcloser
  exact closeFrom_opener (opener_ne_nil kind) hcloser

/-- Anything else is passed over. -/
lemma closeAt_of_other (ho : ¬ kind.opener <+: c :: text) (hc : ¬ kind.closer <+: c :: text) :
    closeAt kind depth (c :: text) = shift 1 (closeAt kind depth text) := by
  rw [← List.isPrefixOf_iff_prefix, Bool.not_eq_true] at ho hc
  simp [closeAt, closeFrom, ho, hc, Template.shift]

/-- The search ends at a closer when no other block is open, and else goes on behind the first
character, with as many open blocks as there are then. -/
lemma closeAt_step (kind : BlockKind) (depth : Nat) (c : CodePoint) (text : List CodePoint) :
    (kind.closer <+: c :: text ∧ depth = 0) ∧ closeAt kind depth (c :: text) = some 0 ∨
    ¬ (kind.closer <+: c :: text ∧ depth = 0) ∧ ∃ depth' : Nat,
      depth' = depth + gain kind (c :: text) ∧
        closeAt kind depth (c :: text) = shift 1 (closeAt kind depth' text) := by
  by_cases hcloser : kind.closer <+: c :: text
  · cases depth with
    | zero =>
      obtain ⟨rest, hrest⟩ := hcloser
      exact .inl ⟨⟨⟨rest, hrest⟩, rfl⟩, by rw [← hrest, closeAt_zero_closer]⟩
    | succ depth =>
      refine .inr ⟨nofun, depth, ?_, closeAt_of_closer hcloser⟩
      rw [gain_of_closer hcloser]
      omega
  · have hno : ¬ (kind.closer <+: c :: text ∧ depth = 0) := fun h => hcloser h.1
    by_cases hopener : kind.opener <+: c :: text
    · refine .inr ⟨hno, depth + 1, ?_, closeAt_of_opener hopener⟩
      rw [gain_of_opener hopener]
      rfl
    · refine .inr ⟨hno, depth, ?_, closeAt_of_other hopener hcloser⟩
      rw [gain_of_other hopener hcloser, Int.add_zero]

/-! ### Balance -/

/-- At a position of a text stands the closer of a block that was open at the start of the text with
`depth` blocks of its kind inside of it. -/
@[mk_iff]
structure EndsBlock (kind : BlockKind) (depth : Nat) (text : List CodePoint) (n : Nat) : Prop where
  closes : kind.closer <+: text.drop n
  /-- The blocks inside are closed before it. -/
  balance : depth + surplus kind (text.take n) = 0

lemma endsBlock_zero : EndsBlock kind depth text 0 ↔ kind.closer <+: text ∧ depth = 0 := by
  simp [endsBlock_iff]

/-- One character further the depth is what the mark there makes of it. -/
lemma endsBlock_succ : EndsBlock kind depth (c :: text) (n + 1) ↔ kind.closer <+: text.drop n ∧
    depth + (gain kind (c :: text) + surplus kind (text.take n)) = 0 := by
  rw [endsBlock_iff, List.drop_succ_cons]
  exact and_congr_right fun hcloses => by
    rw [surplus_take ((openMark_prefix_closer kind).trans hcloses)]

/-- The search for a closer finds the first one that ends the block. -/
lemma isFirst_closeAt (kind : BlockKind) (depth : Nat) (text : List CodePoint) :
    IsFirst (EndsBlock kind depth text) (closeAt kind depth text) := by
  induction text generalizing depth with
  | nil =>
    intro m hm
    have hnil := hm.closes
    rw [List.drop_nil, List.prefix_nil] at hnil
    exact closer_ne_nil kind hnil
  | cons c text ih =>
    rcases closeAt_step kind depth c text with ⟨hends, hfound⟩ | ⟨hno, depth', hdepth, hfound⟩
    · rw [hfound]
      exact .zero (endsBlock_zero.mpr hends)
    · rw [hfound]
      refine ((ih depth').congr fun m => ?_).shift_one (mt endsBlock_zero.mp hno)
      rw [endsBlock_succ, endsBlock_iff, hdepth, Int.add_assoc]

/-- Up to the closer that is found no closer is in excess. -/
lemma surplus_nonneg_of_closeAt (h : closeAt kind depth text = some n) (hm : m ≤ n)
    (hopen : openMark <+: text.drop m) : 0 ≤ depth + surplus kind (text.take m) := by
  induction text generalizing depth n m with
  | nil => simp
  | cons c text ih =>
    cases m with
    | zero => simp
    | succ m =>
      rcases closeAt_step kind depth c text with ⟨-, hfound⟩ | ⟨-, depth', hdepth, hfound⟩
      · rw [hfound] at h
        obtain rfl := Option.some.inj h
        exact absurd hm (Nat.not_succ_le_zero m)
      · rw [hfound] at h
        obtain ⟨k, hk, rfl⟩ := Option.map_eq_some_iff.mp h
        have hbehind := ih hk (Nat.le_of_succ_le_succ hm) hopen
        rw [surplus_take (by simpa using hopen)]
        omega

/-- At a position from `start` on stands a closer, and from `start` to there as many openers as
closers of its kind occur. -/
@[mk_iff]
structure Balances (kind : BlockKind) (text : List CodePoint) (start n : Nat) : Prop where
  start_le : start ≤ n
  closes : kind.closer <+: text.drop n
  balance : occurrences kind.opener ((text.drop start).take (n - start)) =
    occurrences kind.closer ((text.drop start).take (n - start))

lemma balances_add {start : Nat} :
    Balances kind text start (n + start) ↔ EndsBlock kind 0 (text.drop start) n := by
  rw [balances_iff, endsBlock_iff, Nat.add_sub_cancel, List.drop_drop, Nat.add_comm start,
    and_iff_right (Nat.le_add_left start n), surplus]
  exact and_congr_right fun _ => by omega

/-- The search from a start finds the first position where the blocks balance. -/
lemma isFirst_matchingClose? (kind : BlockKind) (text : List CodePoint) (start : Nat) :
    IsFirst (Balances kind text start) (matchingClose? kind.opener kind.closer text start) := by
  have hstart : matchingClose? kind.opener kind.closer text start =
      shift start (closeAt kind 0 (text.drop start)) := rfl
  rw [hstart]
  refine ((isFirst_closeAt kind 0 (text.drop start)).congr fun _ => balances_add).shift ?_
  exact fun m hlt hm => Nat.not_le.mpr hlt hm.start_le

/-- The search for the closer of a block ends with the first position that balances the block, and
with nothing exactly when there is none. -/
theorem matchingClose?_iff (kind : BlockKind) (text : List CodePoint) (start : Nat) :
    (∀ n, matchingClose? kind.opener kind.closer text start = some n ↔
      IsLeast {n | Balances kind text start n} n) ∧
    (matchingClose? kind.opener kind.closer text start = none ↔ ∀ n, ¬ Balances kind text start n) :=
  ⟨fun _ => (isFirst_matchingClose? kind text start).eq_some_iff,
    (isFirst_matchingClose? kind text start).eq_none_iff⟩

/-- The closer of the inner block is counted before that of the outer one. -/
example : matchingClose? BlockKind.whenSet.opener BlockKind.whenSet.closer
    (delimited "#if a".codePoints ++ delimited "#if b".codePoints ++ delimited "/if".codePoints ++
      delimited "/if".codePoints) 9 = some 25 := by
  decide +kernel

end TripProposal.Template
