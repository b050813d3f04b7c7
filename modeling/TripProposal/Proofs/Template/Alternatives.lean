import TripProposal.Proofs.Template.Closers

/-!
# Alternatives of conditions

The search for the alternative of a condition counts conditions and loops together: it finds the
first alternative before which as many of them are closed as are opened. In the body of a condition
no closer of a condition is in excess, so an alternative inside of another block is passed over
unless closers of loops are in excess before it.
-/

namespace TripProposal.Template

open Text

variable {c : CodePoint} {text body a b : List CodePoint} {kind : BlockKind} {n m p : Nat}

/-! ### One delimiter at most -/

/-- A text starts with one opener at most. -/
lemma eq_of_openers {kind' : BlockKind} (h : kind.opener <+: text) (h' : kind'.opener <+: text) :
    kind = kind' := by
  obtain ⟨rest, rfl⟩ := h
  have hopener : kind'.opener.isPrefixOf (kind.opener ++ rest) = decide (kind' = kind) := by
    cases kind <;> cases kind' <;> rfl
  rw [← List.isPrefixOf_iff_prefix, hopener, decide_eq_true_iff] at h'
  exact h'.symm

/-- A text starts with one closer at most. -/
lemma eq_of_closers {kind' : BlockKind} (h : kind.closer <+: text) (h' : kind'.closer <+: text) :
    kind = kind' := by
  obtain ⟨rest, rfl⟩ := h
  rw [← List.isPrefixOf_iff_prefix, isPrefixOf_closer_closer, decide_eq_true_iff] at h'
  exact h'.symm

/-- An alternative opens nothing. -/
lemma not_else_of_opener (h : kind.opener <+: text) : ¬ elseTag <+: text := by
  obtain ⟨rest, rfl⟩ := h
  have hno : elseTag.isPrefixOf (kind.opener ++ rest) = false := rfl
  rwa [← List.isPrefixOf_iff_prefix, Bool.not_eq_true]

/-- An alternative closes nothing. -/
lemma not_else_of_closer (h : kind.closer <+: text) : ¬ elseTag <+: text := by
  obtain ⟨rest, rfl⟩ := h
  have hno : elseTag.isPrefixOf (kind.closer ++ rest) = false := rfl
  rwa [← List.isPrefixOf_iff_prefix, Bool.not_eq_true]

/-- The opener of another kind of block does not count. -/
lemma gain_of_opener_of_ne {kind' : BlockKind} (h : kind.opener <+: text) (hne : kind ≠ kind') :
    gain kind' text = 0 :=
  gain_of_other (fun h' => hne (eq_of_openers h h')) (not_closer_of_opener h)

/-- Nor does its closer. -/
lemma gain_of_closer_of_ne {kind' : BlockKind} (h : kind.closer <+: text) (hne : kind ≠ kind') :
    gain kind' text = 0 :=
  gain_of_other (fun h' => not_closer_of_opener h' h) (fun h' => hne (eq_of_closers h h'))

/-! ### Marks -/

/-- What a mark adds to the openers less the closers of conditions and loops. -/
def ElseMark.gain : ElseMark → Int
  | .opens => 1
  | .closes => -1
  | .alternative | .other => 0

/-- The mark at the start of a text counts for conditions or for loops. -/
lemma gain_elseMark (text : List CodePoint) :
    (elseMark text).gain = gain .whenSet text + gain .forEach text := by
  simp only [elseMark, Bool.or_eq_true, List.isPrefixOf_iff_prefix]
  split
  · next hopener =>
    rcases hopener with h | h
    · rw [gain_of_opener h, gain_of_opener_of_ne h (by decide)]
      rfl
    · rw [gain_of_opener h, gain_of_opener_of_ne h (by decide)]
      rfl
  · next hopener =>
    rw [not_or] at hopener
    split
    · next hcloser =>
      rcases hcloser with h | h
      · rw [gain_of_closer h, gain_of_closer_of_ne h (by decide)]
        rfl
      · rw [gain_of_closer h, gain_of_closer_of_ne h (by decide)]
        rfl
    · next hcloser =>
      rw [not_or] at hcloser
      rw [gain_of_other hopener.1 hcloser.1, gain_of_other hopener.2 hcloser.2]
      split <;> rfl

/-- The search for an alternative stops at `else` only. -/
lemma elseMark_eq_alternative_iff : elseMark text = .alternative ↔ elseTag <+: text := by
  simp only [elseMark, Bool.or_eq_true, List.isPrefixOf_iff_prefix]
  split
  · next hopener =>
    have hno : ¬ elseTag <+: text := hopener.elim not_else_of_opener not_else_of_opener
    simp [hno]
  · split
    · next hcloser =>
      have hno : ¬ elseTag <+: text := hcloser.elim not_else_of_closer not_else_of_closer
      simp [hno]
    · split
      · next helse => simp [helse]
      · next helse => simp [helse]

/-! ### The alternative that is found -/

/-- At a position of a text stands an alternative that is outside of the conditions and loops in the
text, `depth` of them being open at the start of the text. -/
@[mk_iff]
structure IsOutside (depth : Int) (text : List CodePoint) (n : Nat) : Prop where
  starts : elseTag <+: text.drop n
  /-- The conditions and loops are closed before it. -/
  balance : depth + (surplus .whenSet (text.take n) + surplus .forEach (text.take n)) = 0

lemma isOutside_zero {depth : Int} : IsOutside depth text 0 ↔ elseTag <+: text ∧ depth = 0 := by
  simp [isOutside_iff]

/-- One character further the depth is what the mark there makes of it. -/
lemma isOutside_succ {depth : Int} : IsOutside depth (c :: text) (n + 1) ↔
    IsOutside (depth + (elseMark (c :: text)).gain) text n := by
  rw [isOutside_iff, isOutside_iff, List.drop_succ_cons]
  refine and_congr_right fun hstarts => ?_
  have hopen := (openMark_prefix_delimited "else".codePoints).trans hstarts
  rw [surplus_take hopen, surplus_take hopen, gain_elseMark]
  constructor <;> intro h <;> omega

/-- The search ends at an alternative that is outside, and else goes on behind the first
character. -/
lemma elseFrom_cons {depth : Int} (h : ¬ IsOutside depth (c :: text) 0) :
    elseFrom depth (c :: text) =
      shift 1 (elseFrom (depth + (elseMark (c :: text)).gain) text) := by
  rw [isOutside_zero, ← elseMark_eq_alternative_iff] at h
  cases hmark : elseMark (c :: text) with
  | opens => simp [elseFrom, hmark, shift, ElseMark.gain]
  | closes => simp [elseFrom, hmark, shift, ElseMark.gain, Int.sub_eq_add_neg]
  | alternative =>
    have hdepth : depth ≠ 0 := fun hdepth => h ⟨hmark, hdepth⟩
    simp [elseFrom, hmark, shift, ElseMark.gain, hdepth]
  | other => simp [elseFrom, hmark, shift, ElseMark.gain]

/-- The search for an alternative finds the first one that is outside. -/
lemma isFirst_elseFrom (depth : Int) (text : List CodePoint) :
    IsFirst (IsOutside depth text) (elseFrom depth text) := by
  induction text generalizing depth with
  | nil =>
    intro m hm
    have hnil := hm.starts
    rw [List.drop_nil, List.prefix_nil] at hnil
    exact absurd hnil (by decide)
  | cons c text ih =>
    by_cases hfound : IsOutside depth (c :: text) 0
    · obtain ⟨helse, rfl⟩ := isOutside_zero.mp hfound
      rw [elseFrom, elseMark_eq_alternative_iff.mpr helse]
      exact .zero hfound
    · rw [elseFrom_cons hfound]
      exact ((ih _).congr fun m => isOutside_succ).shift_one hfound

/-! ### Inside of blocks -/

/-- Counting starts anew at a tag. -/
lemma surplus_append (kind : BlockKind) (a : List CodePoint) (hopen : openMark <+: b) :
    surplus kind (a ++ b) = surplus kind a + surplus kind b := by
  induction a with
  | nil => simp
  | cons c a ih =>
    have hgain : gain kind (c :: a) = gain kind (c :: (a ++ b)) := by
      have hbehind : openMark <+: (a ++ b).drop a.length := by rwa [List.drop_left]
      rw [← gain_take hbehind, List.take_succ_cons, List.take_left]
    rw [List.cons_append, surplus_cons, surplus_cons, ih, hgain, Int.add_assoc]

/-- A text without tags opens and closes nothing. -/
lemma surplus_inert_append (kind : BlockKind) (h : IsInert a) (b : List CodePoint) :
    surplus kind (a ++ b) = surplus kind b := by
  induction a with
  | nil => rfl
  | cons c a ih =>
    have hno : ¬ openMark <+: c :: (a ++ b) := by
      rw [← List.isPrefixOf_iff_prefix, h.not_open b]
      exact Bool.false_ne_true
    rw [List.cons_append, surplus_cons, ih h.tail, gain_of_other, Int.zero_add]
    · exact fun ho => hno ((openMark_prefix_opener kind).trans ho)
    · exact fun hc => hno ((openMark_prefix_closer kind).trans hc)

lemma surplus_opener_append (kind : BlockKind) (b : List CodePoint) :
    surplus kind (kind.opener ++ b) = 1 + surplus kind b := by
  have hgain : gain kind (kind.opener ++ b) = 1 := gain_of_opener (List.prefix_append _ _)
  obtain ⟨d, tail, htail⟩ := List.exists_cons_of_ne_nil (opener_ne_nil kind)
  have hinert : IsInert tail := by
    have hdelimiter := (isDelimiter_opener kind).2
    rwa [htail] at hdelimiter
  rw [htail, List.cons_append] at hgain ⊢
  rw [surplus_cons, hgain, surplus_inert_append kind hinert]

/-- A position of a text lies between an opener and the closer that balances the opener. -/
def IsInside (kind : BlockKind) (text : List CodePoint) (p : Nat) : Prop :=
  ∃ start n, kind.opener <+: text.drop start ∧
    closeOffset? kind.opener kind.closer (text.drop (start + kind.opener.length)) = some n ∧
    start + kind.opener.length ≤ p ∧ p < start + kind.opener.length + n

/-- Inside of a block more openers of its kind are open than before it. -/
lemma exists_surplus_lt (h : IsInside kind text p) (hopen : openMark <+: text.drop p) :
    ∃ start ≤ p, openMark <+: text.drop start ∧
      surplus kind (text.take start) < surplus kind (text.take p) := by
  obtain ⟨start, n, hopener, hclose, hle, hlt⟩ := h
  have htag := (openMark_prefix_opener kind).trans hopener
  refine ⟨start, by omega, htag, ?_⟩
  obtain ⟨rest, hrest⟩ := hopener
  have hbehind : text.drop (start + kind.opener.length) = rest := by
    rw [← List.drop_drop, ← hrest, List.drop_left]
  obtain ⟨k, rfl⟩ := Nat.exists_eq_add_of_le hle
  have htake : text.take (start + kind.opener.length + k) =
      text.take start ++ (kind.opener ++ rest.take k) := by
    rw [Nat.add_assoc, List.take_add, ← hrest, List.take_length_add_append]
  have hinside : 0 ≤ ((0 : Nat) : Int) + surplus kind (rest.take k) := by
    rw [hbehind] at hclose
    refine surplus_nonneg_of_closeAt hclose (by omega) ?_
    rwa [← List.drop_drop, hbehind] at hopen
  rw [htake, surplus_append kind _ ((openMark_prefix_opener kind).trans (List.prefix_append _ _)),
    surplus_opener_append]
  omega

/-- The body of a block: a text up to the closer that balances an opener just before the text. -/
def IsBody (kind : BlockKind) (body : List CodePoint) : Prop :=
  ∃ text, body <+: text ∧ closeOffset? kind.opener kind.closer text = some body.length

/-- In a body nothing is closed that was not opened. -/
lemma IsBody.surplus_nonneg (h : IsBody kind body) (hopen : openMark <+: body.drop p) :
    0 ≤ surplus kind (body.take p) := by
  obtain ⟨text, ⟨rest, rfl⟩, hclose⟩ := h
  have hle : p ≤ body.length := by
    by_contra hlt
    rw [List.drop_eq_nil_of_le (Nat.le_of_not_le hlt)] at hopen
    exact absurd hopen (by decide)
  have hbefore := surplus_nonneg_of_closeAt hclose hle <| by
    rw [List.drop_append_of_le_length hle]
    exact hopen.trans (List.prefix_append _ _)
  rw [List.take_append_of_le_length hle] at hbefore
  omega

/-- The alternative of a condition is none of those inside of the conditions and loops of its body,
unless closers of loops are in excess before it. -/
theorem elseOffset?_not_inside (hbody : IsBody .whenSet body) (helse : elseOffset? body = some p)
    (hloops : ∀ m ≤ p, occurrences BlockKind.forEach.closer (body.take m) ≤
      occurrences BlockKind.forEach.opener (body.take m))
    (hkind : kind = .whenSet ∨ kind = .forEach) : ¬ IsInside kind body p := by
  intro hinside
  obtain ⟨hstarts, hbalance⟩ := (isFirst_elseFrom 0 body).eq_some_iff.mp helse |>.1
  have hopen := (openMark_prefix_delimited "else".codePoints).trans hstarts
  obtain ⟨start, hle, htag, hlt⟩ := exists_surplus_lt hinside hopen
  have hloop : ∀ m ≤ p, 0 ≤ surplus .forEach (body.take m) := by
    intro m hm
    have := hloops m hm
    rw [surplus]
    omega
  rcases hkind with rfl | rfl
  · have hcondition := hbody.surplus_nonneg htag
    have := hloop p le_rfl
    omega
  · have hcondition := hbody.surplus_nonneg hopen
    have := hloop start hle
    omega

/-- The body of a condition with a loop that has an alternative inside and with a closer that closes
nothing. -/
def loopBody : List CodePoint :=
  delimited "/with".codePoints ++ delimited "#each x".codePoints ++ elseTag ++
    delimited "/each".codePoints ++ elseTag ++ "none".codePoints

/-- The alternative of the condition stands behind the loop. -/
theorem elseOffset?_not_inside_loopBody :
    IsBody .whenSet loopBody ∧ elseOffset? loopBody = some 37 ∧
      (∀ m ≤ 37, occurrences BlockKind.forEach.closer (loopBody.take m) ≤
        occurrences BlockKind.forEach.opener (loopBody.take m)) ∧
      ¬ IsInside .forEach loopBody 37 := by
  have hbody : IsBody .whenSet loopBody :=
    ⟨loopBody ++ BlockKind.whenSet.closer, List.prefix_append _ _, by decide +kernel⟩
  have helse : elseOffset? loopBody = some 37 := by decide +kernel
  have hloops : ∀ m ≤ 37, occurrences BlockKind.forEach.closer (loopBody.take m) ≤
      occurrences BlockKind.forEach.opener (loopBody.take m) := by
    decide +kernel
  exact ⟨hbody, helse, hloops, elseOffset?_not_inside hbody helse hloops (.inr rfl)⟩

/-- The body of a condition with a closer that closes nothing and with a condition that has an
alternative. -/
def strayBody : List CodePoint :=
  delimited "/each".codePoints ++ delimited "#if b".codePoints ++ "X".codePoints ++ elseTag ++
    "Y".codePoints ++ delimited "/if".codePoints

/-- A closer of a loop that closes nothing hides one opener: the alternative that is found in this
body belongs to the condition inside of it. -/
theorem elseOffset?_inside :
    IsBody .whenSet strayBody ∧ elseOffset? strayBody = some 19 ∧
      IsInside .whenSet strayBody 19 := by
  have hbody : IsBody .whenSet strayBody :=
    ⟨strayBody ++ BlockKind.whenSet.closer, List.prefix_append _ _, by decide +kernel⟩
  have hinside : IsInside .whenSet strayBody 19 :=
    ⟨9, 13, by decide +kernel, by decide +kernel, by decide +kernel, by decide +kernel⟩
  exact ⟨hbody, by decide +kernel, hinside⟩

end TripProposal.Template
