import TripProposal.Proofs.Template.Padding

/-!
# Nesting in written trees

The search for the closer of a block and the search for its alternative both count depth while
they run over text. A written tree has as many closers as openers of every kind, and each of its
alternatives is deeper than the tree itself, so both searches pass over a whole tree and go on at
the same depth behind it. Openers with blanks are not counted, which does no harm where no search
passes that is to count them.
-/

namespace TripProposal.Template

open Text

variable {kind kind' : BlockKind} {depth : Nat} {content : List CodePoint}

/-- A position counted from a place that is `n` characters further on. -/
def shift (n : Nat) (position : Option Nat) : Option Nat :=
  position.map (· + n)

@[simp] lemma shift_some (n m : Nat) : shift n (some m) = some (m + n) := rfl

@[simp] lemma shift_none (n : Nat) : shift n none = none := rfl

@[simp] lemma shift_zero (position : Option Nat) : shift 0 position = position := by
  cases position <;> rfl

@[simp] lemma shift_shift (m n : Nat) (position : Option Nat) :
    shift m (shift n position) = shift (m + n) position := by
  cases position <;> simp [Nat.add_comm, Nat.add_left_comm]

/-! ### Closers -/

section Search

variable {opener closer : List CodePoint}

/-- What is skipped is passed over. -/
lemma closeFrom_skip (skipped rest : List CodePoint) :
    closeFrom opener closer skipped.length depth (skipped ++ rest) =
      shift skipped.length (closeFrom opener closer 0 depth rest) := by
  induction skipped with
  | nil => simp
  | cons c skipped ih =>
    rw [List.length_cons, Nat.add_comm, ← shift_shift, ← ih, List.cons_append, Nat.add_comm 1]
    rfl

/-- An opener starts a block that has to end first. -/
lemma closeFrom_opener {rest : List CodePoint} (hne : opener ≠ [])
    (h : closer.isPrefixOf (opener ++ rest) = false) :
    closeFrom opener closer 0 depth (opener ++ rest) =
      shift opener.length (closeFrom opener closer 0 (depth + 1) rest) := by
  cases opener with
  | nil => exact absurd rfl hne
  | cons c opener =>
    have ho := isPrefixOf_append (c :: opener) rest
    rw [List.cons_append] at h ho ⊢
    simp only [closeFrom, h, ho, if_true, Bool.false_eq_true, if_false, List.length_cons,
      Nat.add_sub_cancel, closeFrom_skip]
    rw [Nat.add_comm opener.length, ← shift_shift]
    rfl

/-- A closer ends the innermost block. -/
lemma closeFrom_closer (hne : closer ≠ []) (rest : List CodePoint) :
    closeFrom opener closer 0 (depth + 1) (closer ++ rest) =
      shift closer.length (closeFrom opener closer 0 depth rest) := by
  cases closer with
  | nil => exact absurd rfl hne
  | cons c closer =>
    have hc := isPrefixOf_append (c :: closer) rest
    rw [List.cons_append] at hc ⊢
    simp only [closeFrom, hc, if_true, List.length_cons, Nat.add_sub_cancel, closeFrom_skip]
    rw [Nat.add_comm closer.length, ← shift_shift]
    rfl

lemma closeFrom_zero_closer (hne : closer ≠ []) (rest : List CodePoint) :
    closeFrom opener closer 0 0 (closer ++ rest) = some 0 := by
  cases closer with
  | nil => exact absurd rfl hne
  | cons c closer =>
    have hc := isPrefixOf_append (c :: closer) rest
    rw [List.cons_append] at hc ⊢
    simp [closeFrom, hc]

end Search

/-- The search for the closer of a kind, nothing being passed over. -/
def closeAt (kind : BlockKind) (depth : Nat) (text : List CodePoint) : Option Nat :=
  closeFrom kind.opener kind.closer 0 depth text

lemma closeAt_cons {c : CodePoint} {rest : List CodePoint}
    (h : openMark.isPrefixOf (c :: rest) = false) :
    closeAt kind depth (c :: rest) = shift 1 (closeAt kind depth rest) := by
  have ho := isPrefixOf_eq_false_of_start (openMark_prefix_opener kind) h
  have hc := isPrefixOf_eq_false_of_start (openMark_prefix_closer kind) h
  simp [closeAt, closeFrom, ho, hc, shift]

/-- In a text without tags nothing is closed. -/
lemma closeAt_inert {text : List CodePoint} (h : IsInert text) (rest : List CodePoint) :
    closeAt kind depth (text ++ rest) = shift text.length (closeAt kind depth rest) := by
  induction text with
  | nil => simp
  | cons c text ih =>
    rw [List.cons_append, closeAt_cons (h.not_open rest), ih h.tail, shift_shift,
      List.length_cons, Nat.add_comm]

/-- A tag that neither opens nor closes a block of the kind is passed over. -/
lemma closeAt_tag (h : IsPlain content) (rest : List CodePoint)
    (ho : kind.opener.isPrefixOf (delimited content ++ rest) = false)
    (hc : kind.closer.isPrefixOf (delimited content ++ rest) = false) :
    closeAt kind depth (delimited content ++ rest) =
      shift (delimited content).length (closeAt kind depth rest) := by
  rw [delimited_eq_cons, List.cons_append] at ho hc ⊢
  have hfirst : closeAt kind depth (.char '{' :: (.char '{' :: (content ++ closeMark) ++ rest)) =
      shift 1 (closeAt kind depth (.char '{' :: (content ++ closeMark) ++ rest)) := by
    simp only [closeAt, closeFrom, ho, hc, shift]
    simp
  rw [hfirst, closeAt_inert (isInert_tag h), shift_shift]
  congr 1
  simp only [List.length_cons]
  omega

/-- A neutral tag is passed over. -/
lemma closeAt_neutral (h : IsPlain content) (hn : IsNeutral content) (rest : List CodePoint) :
    closeAt kind depth (delimited content ++ rest) =
      shift (delimited content).length (closeAt kind depth rest) :=
  closeAt_tag h rest (isPrefixOf_opener_neutral hn rest) (isPrefixOf_closer_neutral hn rest)

lemma opener_ne_nil (kind : BlockKind) : kind.opener ≠ [] := by
  simp [BlockKind.opener_eq]

lemma closer_ne_nil (kind : BlockKind) : kind.closer ≠ [] := by
  simp [BlockKind.closer_eq, delimited_eq_cons]

/-- An opener counts for its own kind only. -/
lemma closeAt_openerTag (expression : Content) (rest : List CodePoint) :
    closeAt kind depth (openerTag kind' expression.chars ++ rest) =
      shift (openerTag kind' expression.chars).length
        (closeAt kind (if kind = kind' then depth + 1 else depth) rest) := by
  have hc := isPrefixOf_closer_openerTag kind kind' expression.chars rest
  by_cases hk : kind = kind'
  · subst hk
    have hend : IsInert (expression.chars ++ closeMark) :=
      expression.plain.inert.append (by decide)
    rw [openerTag_eq, List.append_assoc] at hc ⊢
    rw [closeAt, closeFrom_opener (opener_ne_nil kind) hc, ← closeAt, closeAt_inert hend,
      shift_shift, if_pos rfl]
    simp only [List.length_append]
  · have ho := isPrefixOf_opener_openerTag kind kind' expression.chars rest
    rw [if_neg hk]
    exact closeAt_tag (expression.isPlain_print kind') rest (ho.trans (by simp [hk])) hc

lemma closeAt_closer (rest : List CodePoint) :
    closeAt kind (depth + 1) (kind.closer ++ rest) =
      shift kind.closer.length (closeAt kind depth rest) :=
  closeFrom_closer (closer_ne_nil kind) rest

lemma closeAt_zero_closer (rest : List CodePoint) : closeAt kind 0 (kind.closer ++ rest) = some 0 :=
  closeFrom_zero_closer (closer_ne_nil kind) rest

/-- A closer counts for its own kind only. -/
lemma closeAt_closer_of_ne (hk : kind ≠ kind') (rest : List CodePoint) :
    closeAt kind depth (kind'.closer ++ rest) =
      shift kind'.closer.length (closeAt kind depth rest) := by
  have ho := isPrefixOf_opener_closer kind kind' rest
  have hc := isPrefixOf_closer_closer kind kind' rest
  rw [BlockKind.closer_eq kind'] at ho hc ⊢
  exact closeAt_tag (by cases kind' <;> decide) rest ho (hc.trans (by simp [hk]))

lemma isPlain_else : IsPlain "else".codePoints := by decide

lemma isNeutral_else : IsNeutral "else".codePoints := by decide

/-- The texts that are filled into a tree are inert. -/
def IsInertFill (fill : List CodePoint → Option (List CodePoint)) : Prop :=
  ∀ content text, fill content = some text → IsInert text

/-- An opener with blanks counts for no kind, so its kind must not be the one that is searched. -/
lemma closeAt_paddedOpener (padding : Padding) (expression : Content)
    (h : padding.chars = [] ∨ kind ≠ kind') (rest : List CodePoint) :
    closeAt kind depth (padding.openerTag kind' expression.chars ++ rest) =
      shift (padding.openerTag kind' expression.chars).length
        (closeAt kind (if kind = kind' then depth + 1 else depth) rest) := by
  by_cases hp : padding.chars = []
  · rw [padding.openerTag_of_nil hp, closeAt_openerTag]
  · rw [if_neg (h.resolve_left hp), Padding.openerTag]
    exact closeAt_neutral (padding.isPlain_append (expression.isPlain_print kind'))
      (padding.isNeutral_append hp _) rest

/-- The search for a closer passes over a whole tree that fits. -/
lemma PaddedTree.closeAt_textWith {fill : List CodePoint → Option (List CodePoint)}
    (hfill : IsInertFill fill) {counted : List BlockKind} (hkind : kind ∈ counted) (t : PaddedTree)
    (hfits : t.Fits counted) (depth : Nat) (rest : List CodePoint) :
    closeAt kind depth (t.textWith fill ++ rest) =
      shift (t.textWith fill).length (closeAt kind depth rest) := by
  induction t generalizing counted depth rest with
  | nil => simp [PaddedTree.textWith]
  | text literal next ih =>
    simp only [PaddedTree.textWith, List.append_assoc, List.length_append]
    rw [closeAt_inert literal.inert, ih hkind hfits, shift_shift]
  | value content next ih =>
    simp only [PaddedTree.textWith, List.append_assoc, List.length_append]
    cases hc : fill content.chars with
    | none =>
      rw [Option.getD_none, closeAt_neutral content.plain content.neutral, ih hkind hfits,
        shift_shift]
    | some text =>
      rw [Option.getD_some, closeAt_inert (hfill _ _ hc), ih hkind hfits, shift_shift]
  | block padding kind' expression body next ihBody ihNext =>
    -- One level up for the opener and one down for its closer, if they are of the counted kind.
    obtain ⟨hpadding, hbody, hnext⟩ := hfits
    have hopener := hpadding.imp_right fun h => ne_of_mem_of_not_mem hkind h
    simp only [PaddedTree.textWith, List.append_assoc, List.length_append]
    rw [closeAt_paddedOpener padding expression hopener,
      ihBody (List.mem_append_right _ hkind) hbody]
    by_cases hk : kind = kind'
    · subst hk
      rw [if_pos rfl, closeAt_closer, ihNext hkind hnext]
      simp only [shift_shift]
    · rw [if_neg hk, closeAt_closer_of_ne hk, ihNext hkind hnext]
      simp only [shift_shift]
  | choice padding expression body alternative next ihBody ihAlternative ihNext =>
    obtain ⟨hpadding, hbody, halternative, hnext⟩ := hfits
    have hopener := hpadding.imp_right fun h => ne_of_mem_of_not_mem hkind h
    simp only [PaddedTree.textWith, List.append_assoc, List.length_append]
    rw [closeAt_paddedOpener padding expression hopener,
      ihBody (List.mem_append_right _ hkind) hbody, elseTag,
      closeAt_neutral isPlain_else isNeutral_else,
      ihAlternative (List.mem_cons_of_mem _ hkind) halternative]
    by_cases hk : kind = .whenSet
    · subst hk
      rw [if_pos rfl, closeAt_closer, ihNext hkind hnext]
      simp only [shift_shift]
    · rw [if_neg hk, closeAt_closer_of_ne hk, ihNext hkind hnext]
      simp only [shift_shift]

/-- The closer behind the body of a block is the one that balances its opener. -/
lemma PaddedTree.closeOffset?_textWith {fill : List CodePoint → Option (List CodePoint)}
    (hfill : IsInertFill fill) {counted : List BlockKind} (hkind : kind ∈ counted) {t : PaddedTree}
    (hfits : t.Fits counted) (rest : List CodePoint) :
    closeOffset? kind.opener kind.closer (t.textWith fill ++ (kind.closer ++ rest)) =
      some (t.textWith fill).length := by
  rw [closeOffset?, ← closeAt, t.closeAt_textWith hfill hkind hfits, closeAt_zero_closer]
  simp

/-- The closer behind the text of a tree is the one that matches. -/
lemma closeOffset?_textWith {fill : List CodePoint → Option (List CodePoint)}
    (hfill : IsInertFill fill) (t : Tree) (rest : List CodePoint) :
    closeOffset? kind.opener kind.closer (t.textWith fill ++ (kind.closer ++ rest)) =
      some (t.textWith fill).length := by
  rw [← t.textWith_padded fill]
  exact PaddedTree.closeOffset?_textWith hfill List.mem_cons_self (t.fits_padded [kind]) rest

/-- The closer behind the alternative of a condition is the one that balances its opener. -/
lemma PaddedTree.closeOffset?_choice {fill : List CodePoint → Option (List CodePoint)}
    (hfill : IsInertFill fill) {counted counted' : List BlockKind} (hkind : kind ∈ counted)
    (hkind' : kind ∈ counted') {t alternative : PaddedTree} (hfits : t.Fits counted)
    (hfits' : alternative.Fits counted') (rest : List CodePoint) :
    closeOffset? kind.opener kind.closer
        (t.textWith fill ++ (elseTag ++ (alternative.textWith fill ++ (kind.closer ++ rest)))) =
      some (t.textWith fill ++ (elseTag ++ alternative.textWith fill)).length := by
  rw [closeOffset?, ← closeAt, t.closeAt_textWith hfill hkind hfits, elseTag,
    closeAt_neutral isPlain_else isNeutral_else,
    alternative.closeAt_textWith hfill hkind' hfits', closeAt_zero_closer]
  simp [Nat.add_comm, Nat.add_left_comm]

/-- The closer behind a condition with an alternative is the one that matches. -/
lemma closeOffset?_choice {fill : List CodePoint → Option (List CodePoint)}
    (hfill : IsInertFill fill) (t alternative : Tree) (rest : List CodePoint) :
    closeOffset? kind.opener kind.closer
        (t.textWith fill ++ (elseTag ++ (alternative.textWith fill ++ (kind.closer ++ rest)))) =
      some (t.textWith fill ++ (elseTag ++ alternative.textWith fill)).length := by
  rw [← t.textWith_padded fill, ← alternative.textWith_padded fill]
  exact PaddedTree.closeOffset?_choice hfill List.mem_cons_self List.mem_cons_self
    (t.fits_padded [kind]) (alternative.fits_padded [kind]) rest

/-! ### Alternatives -/

lemma elseMark_eq_other {text : List CodePoint} (h : openMark.isPrefixOf text = false) :
    elseMark text = .other := by
  have ho := fun kind => isPrefixOf_eq_false_of_start (openMark_prefix_opener kind) h
  have hc := fun kind => isPrefixOf_eq_false_of_start (openMark_prefix_closer kind) h
  have he := isPrefixOf_eq_false_of_start (openMark_prefix_delimited "else".codePoints) h
  simp only [elseMark, ho, hc, elseTag, he, Bool.or_self, Bool.false_eq_true, if_false]

/-- Only conditions and loops are counted when an alternative is looked for. -/
lemma elseMark_openerTag (kind : BlockKind) (expression rest : List CodePoint) :
    elseMark (openerTag kind expression ++ rest) =
      if kind = .whenSet ∨ kind = .forEach then .opens else .other := by
  have he : elseTag.isPrefixOf (openerTag kind expression ++ rest) = false := rfl
  simp only [elseMark, isPrefixOf_opener_openerTag, isPrefixOf_closer_openerTag, he]
  cases kind <;> rfl

lemma elseMark_closer (kind : BlockKind) (rest : List CodePoint) :
    elseMark (kind.closer ++ rest) =
      if kind = .whenSet ∨ kind = .forEach then .closes else .other := by
  have he : elseTag.isPrefixOf (kind.closer ++ rest) = false := rfl
  simp only [elseMark, isPrefixOf_opener_closer, isPrefixOf_closer_closer, he]
  cases kind <;> rfl

/-- A neutral tag is an alternative or nothing. -/
lemma elseMark_neutral (h : IsPlain content) (hn : IsNeutral content) (rest : List CodePoint) :
    elseMark (delimited content ++ rest) =
      if content = "else".codePoints then .alternative else .other := by
  simp only [elseMark, isPrefixOf_opener_neutral hn, isPrefixOf_closer_neutral hn, elseTag,
    isPrefixOf_delimited isPlain_else h, eq_comm (a := content)]
  simp

lemma elseFrom_cons_of_other {depth : Int} {c : CodePoint} {rest : List CodePoint}
    (h : elseMark (c :: rest) = .other) :
    elseFrom depth (c :: rest) = shift 1 (elseFrom depth rest) := by
  simp [elseFrom, h, shift]

/-- In a text without tags there is no alternative. -/
lemma elseFrom_inert {depth : Int} {text : List CodePoint} (h : IsInert text)
    (rest : List CodePoint) :
    elseFrom depth (text ++ rest) = shift text.length (elseFrom depth rest) := by
  induction text with
  | nil => simp
  | cons c text ih =>
    rw [List.cons_append, elseFrom_cons_of_other (elseMark_eq_other (h.not_open rest)), ih h.tail,
      shift_shift, List.length_cons, Nat.add_comm]

/-- Behind its first brace a tag is passed over; what the brace means is what the tag means. -/
lemma elseFrom_tag {depth depth' : Int} (h : IsPlain content) (rest : List CodePoint)
    (hfirst : ∀ text, .char '{' :: text = delimited content ++ rest →
      elseFrom depth ('{' :: text) = shift 1 (elseFrom depth' text)) :
    elseFrom depth (delimited content ++ rest) =
      shift (delimited content).length (elseFrom depth' rest) := by
  have htext :
      .char '{' :: (.char '{' :: (content ++ closeMark) ++ rest) = delimited content ++ rest := by
    simp [delimited_eq_cons]
  rw [← htext, hfirst _ htext, elseFrom_inert (isInert_tag h), shift_shift]
  congr 1
  simp only [delimited_eq_cons, List.length_cons]
  omega

/-- The openers of conditions and loops lead one level deeper. -/
lemma elseFrom_openerTag {depth : Int} (expression : Content) (rest : List CodePoint) :
    elseFrom depth (openerTag kind expression.chars ++ rest) =
      shift (openerTag kind expression.chars).length
        (elseFrom (if kind = .whenSet ∨ kind = .forEach then depth + 1 else depth) rest) := by
  refine elseFrom_tag (expression.isPlain_print kind) rest fun text htext => ?_
  have hm := elseMark_openerTag kind expression.chars rest
  rw [openerTag, ← htext] at hm
  by_cases hk : kind = .whenSet ∨ kind = .forEach <;> simp [elseFrom, hm, hk, shift]

/-- The closers of conditions and loops lead one level back. -/
lemma elseFrom_closer {depth : Int} (rest : List CodePoint) :
    elseFrom depth (kind.closer ++ rest) =
      shift kind.closer.length
        (elseFrom (if kind = .whenSet ∨ kind = .forEach then depth - 1 else depth) rest) := by
  have hm := elseMark_closer kind rest
  rw [BlockKind.closer] at hm ⊢
  refine elseFrom_tag (by rw [BlockKind.toList_word]; cases kind <;> decide) rest
    fun text htext => ?_
  rw [← htext] at hm
  by_cases hk : kind = .whenSet ∨ kind = .forEach <;> simp [elseFrom, hm, hk, shift]

lemma elseFrom_value {depth : Int} (content : ValueContent) (rest : List CodePoint) :
    elseFrom depth (delimited content.chars ++ rest) =
      shift (delimited content.chars).length (elseFrom depth rest) := by
  refine elseFrom_tag content.plain rest fun text htext => elseFrom_cons_of_other ?_
  rw [htext, elseMark_neutral content.plain content.neutral, if_neg content.ne_else]

/-- An alternative counts only at depth zero. -/
lemma elseFrom_elseTag {depth : Int} (h : depth ≠ 0) (rest : List CodePoint) :
    elseFrom depth (elseTag ++ rest) = shift elseTag.length (elseFrom depth rest) := by
  refine elseFrom_tag isPlain_else rest fun text htext => ?_
  have hm := elseMark_neutral isPlain_else isNeutral_else rest
  rw [if_pos rfl, ← htext] at hm
  simp [elseFrom, hm, h, shift]

lemma elseFrom_zero_elseTag (rest : List CodePoint) : elseFrom 0 (elseTag ++ rest) = some 0 := by
  have hm := elseMark_neutral isPlain_else isNeutral_else rest
  rw [if_pos rfl, delimited_eq_cons, List.cons_append] at hm
  rw [elseTag, delimited_eq_cons, List.cons_append, elseFrom, hm]
  rfl

/-- An opener with blanks leads no level deeper, so it must not be that of a condition or loop. -/
lemma elseFrom_paddedOpener {depth : Int} (padding : Padding) (expression : Content)
    (h : padding.chars = [] ∨ ¬ (kind = .whenSet ∨ kind = .forEach)) (rest : List CodePoint) :
    elseFrom depth (padding.openerTag kind expression.chars ++ rest) =
      shift (padding.openerTag kind expression.chars).length
        (elseFrom (if kind = .whenSet ∨ kind = .forEach then depth + 1 else depth) rest) := by
  by_cases hp : padding.chars = []
  · rw [padding.openerTag_of_nil hp, elseFrom_openerTag]
  · have hplain := padding.isPlain_append (expression.isPlain_print kind)
    have hne : padding.chars ++ (Tag.block kind expression.chars).print ≠ "else".codePoints := by
      intro he
      have htrim := congrArg trim he
      rw [padding.trim_append, expression.trim_print, print_block] at htrim
      have hhead : some (CodePoint.char '#') = some (.char 'e') := congrArg List.head? htrim
      exact absurd hhead (by decide)
    rw [if_neg (h.resolve_left hp), Padding.openerTag]
    refine elseFrom_tag hplain rest fun text htext => elseFrom_cons_of_other ?_
    rw [htext, elseMark_neutral hplain (padding.isNeutral_append hp _), if_neg hne]

/-- The search for an alternative passes over a whole tree that fits. -/
lemma PaddedTree.elseFrom_textWith {fill : List CodePoint → Option (List CodePoint)}
    (hfill : IsInertFill fill) {counted : List BlockKind}
    (hcounted : BlockKind.whenSet.counted ⊆ counted) (t : PaddedTree) (hfits : t.Fits counted)
    (depth : Int) (hdepth : 0 ≤ depth) (rest : List CodePoint) :
    elseFrom depth (t.textWith fill ++ rest) =
      shift (t.textWith fill).length (elseFrom depth rest) := by
  induction t generalizing counted depth rest with
  | nil => simp [PaddedTree.textWith]
  | text literal next ih =>
    simp only [PaddedTree.textWith, List.append_assoc, List.length_append]
    rw [elseFrom_inert literal.inert, ih hcounted hfits _ hdepth, shift_shift]
  | value content next ih =>
    simp only [PaddedTree.textWith, List.append_assoc, List.length_append]
    cases hc : fill content.chars with
    | none => rw [Option.getD_none, elseFrom_value, ih hcounted hfits _ hdepth, shift_shift]
    | some text =>
      rw [Option.getD_some, elseFrom_inert (hfill _ _ hc), ih hcounted hfits _ hdepth, shift_shift]
  | block padding kind expression body next ihBody ihNext =>
    obtain ⟨hpadding, hbody, hnext⟩ := hfits
    have hopener : padding.chars = [] ∨ ¬ (kind = .whenSet ∨ kind = .forEach) :=
      hpadding.imp_right fun h hk => h (hcounted (by rcases hk with rfl | rfl <;> decide))
    have hinside := List.Subset.trans hcounted (List.subset_append_right kind.counted counted)
    simp only [PaddedTree.textWith, List.append_assoc, List.length_append]
    rw [elseFrom_paddedOpener padding expression hopener,
      ihBody hinside hbody _ (by split <;> omega), elseFrom_closer, ihNext hcounted hnext]
    · simp only [shift_shift]
      split <;> simp
    · split <;> omega
  | choice padding expression body alternative next ihBody ihAlternative ihNext =>
    obtain ⟨hpadding, hbody, halternative, hnext⟩ := hfits
    have hopener : padding.chars = [] ∨
        ¬ (BlockKind.whenSet = .whenSet ∨ BlockKind.whenSet = .forEach) :=
      hpadding.imp_right fun h _ => h (hcounted (by decide))
    have hinside := List.Subset.trans hcounted
      (List.subset_append_right BlockKind.whenSet.counted counted)
    have hbehind := List.Subset.trans hcounted (List.subset_cons_self .whenSet counted)
    simp only [PaddedTree.textWith, List.append_assoc, List.length_append]
    -- inside the condition the depth is at least one, so its alternative is passed over
    rw [elseFrom_paddedOpener padding expression hopener, if_pos (Or.inl rfl),
      ihBody hinside hbody _ (by omega), elseFrom_elseTag (by omega),
      ihAlternative hbehind halternative _ (by omega), elseFrom_closer,
      if_pos (Or.inl rfl), Int.add_sub_cancel, ihNext hcounted hnext _ hdepth]
    simp only [shift_shift]

/-- A tree has no alternative of its own. -/
lemma PaddedTree.elseOffset?_textWith {fill : List CodePoint → Option (List CodePoint)}
    (hfill : IsInertFill fill) {counted : List BlockKind}
    (hcounted : BlockKind.whenSet.counted ⊆ counted) {t : PaddedTree} (hfits : t.Fits counted) :
    elseOffset? (t.textWith fill) = none := by
  have h := t.elseFrom_textWith hfill hcounted hfits 0 (Int.le_refl 0) []
  rw [List.append_nil] at h
  rw [elseOffset?, h]
  rfl

/-- In the text of a tree all alternatives belong to conditions inside. -/
lemma elseOffset?_textWith {fill : List CodePoint → Option (List CodePoint)}
    (hfill : IsInertFill fill) (t : Tree) : elseOffset? (t.textWith fill) = none := by
  rw [← t.textWith_padded fill]
  exact PaddedTree.elseOffset?_textWith hfill (List.Subset.refl _) (t.fits_padded _)

/-- The alternative of a condition stands between its two trees. -/
lemma PaddedTree.elseOffset?_choice {fill : List CodePoint → Option (List CodePoint)}
    (hfill : IsInertFill fill) {counted : List BlockKind}
    (hcounted : BlockKind.whenSet.counted ⊆ counted) {t : PaddedTree} (hfits : t.Fits counted)
    (rest : List CodePoint) :
    elseOffset? (t.textWith fill ++ (elseTag ++ rest)) = some (t.textWith fill).length := by
  rw [elseOffset?, t.elseFrom_textWith hfill hcounted hfits 0 (Int.le_refl 0),
    elseFrom_zero_elseTag]
  simp

/-- The alternative behind the text of a tree is the one that is found. -/
lemma elseOffset?_choice {fill : List CodePoint → Option (List CodePoint)}
    (hfill : IsInertFill fill) (t : Tree) (rest : List CodePoint) :
    elseOffset? (t.textWith fill ++ (elseTag ++ rest)) = some (t.textWith fill).length := by
  rw [← t.textWith_padded fill]
  exact PaddedTree.elseOffset?_choice hfill (List.Subset.refl _) (t.fits_padded _) rest

end TripProposal.Template
