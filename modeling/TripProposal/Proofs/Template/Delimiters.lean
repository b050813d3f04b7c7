import TripProposal.Proofs.Template.TagGrammar
import TripProposal.Proofs.Template.Tree
import TripProposal.Proofs.Text.Searching

/-!
# Delimiters

Which of the delimiters of the template language a known text starts with, and what is read from
a tag whose content is known. Everything that a scan looks for starts with `{{`, so it passes over
inert text, and inside of a tag it finds nothing but the tag itself.
-/

namespace TripProposal.Template

open Text

variable {c : CodePoint} {a b content rest : List CodePoint} {kind : BlockKind}

/-! ### Inert text -/

/-- A character is inert unless it opens a tag with the next one. -/
lemma isInert_cons :
    IsInert (c :: a) ↔ (c = '{' → ∃ d b, a = d :: b ∧ d ≠ '{') ∧ IsInert a := by
  cases a with
  | nil => by_cases h : c = '{' <;> simp [IsInert, openMark, List.infix_cons_iff, h]
  | cons d b =>
    simp only [IsInert, openMark, List.infix_cons_iff, List.cons_prefix_cons, List.nil_prefix,
      and_true, List.getLast?_cons_cons, List.cons.injEq, not_or]
    grind

lemma IsInert.tail (h : IsInert (c :: a)) : IsInert a :=
  (isInert_cons.mp h).2

/-- No tag starts at the head of an inert text, whatever follows the text. -/
lemma IsInert.not_open (h : IsInert (c :: a)) (rest : List CodePoint) :
    openMark.isPrefixOf (c :: (a ++ rest)) = false := by
  by_cases hc : c = '{'
  · obtain ⟨d, b, rfl, hd⟩ := (isInert_cons.mp h).1 hc
    simp [openMark, List.isPrefixOf_cons_cons, Ne.symm hd]
  · simp [openMark, List.isPrefixOf_cons_cons, Ne.symm hc]

/-- Without braces there are no tags. -/
lemma IsPlain.inert (h : IsPlain a) : IsInert a := by
  refine ⟨fun hi => ?_, fun hl => h.1 (List.mem_of_getLast? hl)⟩
  exact h.1 (hi.subset (by simp [openMark]))

/-- Inert texts do not make a tag together, since a brace at the end is none at the front. -/
lemma IsInert.append (ha : IsInert a) (hb : IsInert b) : IsInert (a ++ b) := by
  induction a with
  | nil => exact hb
  | cons c a ih =>
    refine isInert_cons.mpr ⟨fun hc => ?_, ih ha.tail⟩
    obtain ⟨d, a', rfl, hd⟩ := (isInert_cons.mp ha).1 hc
    exact ⟨d, a' ++ b, rfl, hd⟩

/-- A tag without its first brace is inert. -/
lemma isInert_tag (h : IsPlain content) : IsInert ('{' :: (content ++ closeMark)) := by
  refine isInert_cons.mpr ⟨fun _ => ?_, h.inert.append (by decide)⟩
  cases content with
  | nil => exact ⟨'}', ['}'], rfl, by decide⟩
  | cons d content => exact ⟨d, content ++ closeMark, rfl, fun hd => h.1 (by simp [hd])⟩

/-- The next tag is behind an inert text. -/
lemma cut?_openMark_append (h : IsInert a) (rest : List CodePoint) :
    cut? openMark (a ++ rest) = (cut? openMark rest).map fun (b, t) => (a ++ b, t) := by
  induction a with
  | nil => simp
  | cons c a ih =>
    rw [List.cons_append, cut?_cons_of_not (h.not_open rest), ih h.tail, Option.map_map]
    rfl

/-! ### What tags start with -/

lemma delimited_append (content rest : List CodePoint) :
    delimited content ++ rest =
      .char '{' :: .char '{' :: (content ++ (.char '}' :: .char '}' :: rest)) := by
  simp [delimited, openMark, closeMark]

lemma delimited_eq_cons (content : List CodePoint) :
    delimited content = .char '{' :: .char '{' :: (content ++ closeMark) := by
  simp [delimited, openMark]

/-- A tag starts with braces. -/
lemma openMark_prefix_delimited (content : List CodePoint) : openMark <+: delimited content :=
  ⟨content ++ closeMark, by simp [delimited, openMark]⟩

lemma openMark_prefix_opener (kind : BlockKind) : openMark <+: kind.opener := by
  cases kind <;> decide

lemma openMark_prefix_closer (kind : BlockKind) : openMark <+: kind.closer :=
  openMark_prefix_delimited _

/-- Two tags without braces in them start alike only when they are the same. -/
lemma isPrefixOf_delimited (ha : IsPlain a) (hb : IsPlain b) (rest : List CodePoint) :
    (delimited a).isPrefixOf (delimited b ++ rest) = decide (a = b) := by
  rw [Bool.eq_iff_iff, List.isPrefixOf_iff_prefix, decide_eq_true_iff]
  constructor
  · rintro ⟨t, ht⟩
    simp only [delimited_append, List.cons.injEq, true_and] at ht
    exact eq_of_append_cons_eq ha.2 hb.2 ht
  · rintro rfl
    exact List.prefix_append _ _

/-- The letters of the word that names a kind. -/
def BlockKind.letters : BlockKind → List CodePoint
  | .whenSet => ['i', 'f']
  | .whenUnset => ['u', 'n', 'l', 'e', 's', 's']
  | .forEach => ['e', 'a', 'c', 'h']
  | .within => ['w', 'i', 't', 'h']

-- The word itself is a string literal, which does not compute while the kind is a variable.
lemma BlockKind.toList_word (kind : BlockKind) : kind.word.toList = kind.letters := by
  cases kind <;> rfl

lemma BlockKind.opener_eq (kind : BlockKind) :
    kind.opener = .char '{' :: .char '{' :: .char '#' :: kind.letters ++ [.char ' '] := by
  rw [← BlockKind.toList_word]; rfl

lemma BlockKind.closer_eq (kind : BlockKind) :
    kind.closer = delimited ('/' :: kind.letters) := by
  rw [← BlockKind.toList_word]; rfl

lemma print_block (kind : BlockKind) (expression : List CodePoint) :
    (Tag.block kind expression).print = .char '#' :: kind.letters ++ .char ' ' :: expression := by
  rw [← BlockKind.toList_word]; rfl

lemma openerTag_eq (kind : BlockKind) (expression : List CodePoint) :
    openerTag kind expression = kind.opener ++ (expression ++ closeMark) := by
  simp [openerTag, print_block, BlockKind.opener_eq, delimited_eq_cons]

/-- An opener is recognised by its kind. -/
lemma isPrefixOf_opener_openerTag (kind kind' : BlockKind) (expression rest : List CodePoint) :
    kind.opener.isPrefixOf (openerTag kind' expression ++ rest) = decide (kind = kind') := by
  rw [openerTag, print_block, BlockKind.opener_eq]
  cases kind <;> cases kind' <;> rfl

lemma isPrefixOf_closer_openerTag (kind kind' : BlockKind) (expression rest : List CodePoint) :
    kind.closer.isPrefixOf (openerTag kind' expression ++ rest) = false := rfl

lemma isPrefixOf_opener_closer (kind kind' : BlockKind) (rest : List CodePoint) :
    kind.opener.isPrefixOf (kind'.closer ++ rest) = false := rfl

/-- So is a closer. -/
lemma isPrefixOf_closer_closer (kind kind' : BlockKind) (rest : List CodePoint) :
    kind.closer.isPrefixOf (kind'.closer ++ rest) = decide (kind = kind') := by
  rw [BlockKind.closer_eq, BlockKind.closer_eq]
  cases kind <;> cases kind' <;> rfl

/-- A content that neither opens nor closes a block. -/
def IsNeutral (content : List CodePoint) : Prop :=
  content ≠ [] ∧ content.head? ≠ some (.char '#') ∧ content.head? ≠ some (.char '/')

instance : DecidablePred IsNeutral := fun content =>
  inferInstanceAs (Decidable (content ≠ [] ∧ content.head? ≠ some (.char '#') ∧
    content.head? ≠ some (.char '/')))

/-- Value tags open and close nothing. -/
lemma ValueContent.neutral (content : ValueContent) : IsNeutral content.chars :=
  ⟨content.ne_nil, content.not_opener, content.not_closer⟩

/-- A neutral tag is no opener. -/
lemma isPrefixOf_opener_neutral (h : IsNeutral content) (rest : List CodePoint) :
    kind.opener.isPrefixOf (delimited content ++ rest) = false := by
  obtain ⟨hne, ho, -⟩ := h
  cases content with
  | nil => exact absurd rfl hne
  | cons c content =>
    have hc : c ≠ '#' := by simpa using ho
    simp [delimited_append, BlockKind.opener_eq, List.isPrefixOf_cons_cons, Ne.symm hc]

/-- It is no closer either. -/
lemma isPrefixOf_closer_neutral (h : IsNeutral content) (rest : List CodePoint) :
    kind.closer.isPrefixOf (delimited content ++ rest) = false := by
  obtain ⟨hne, -, hc⟩ := h
  cases content with
  | nil => exact absurd rfl hne
  | cons c content =>
    have hc : c ≠ '/' := by simpa using hc
    simp [BlockKind.closer_eq, delimited_eq_cons, List.isPrefixOf_cons_cons, Ne.symm hc]

/-! ### Reading tags -/

/-- A tag without braces in it ends at its own delimiter. -/
lemma cut?_closeMark_append (h : IsPlain content) (rest : List CodePoint) :
    cut? closeMark (content ++ (closeMark ++ rest)) = some (content, rest) := by
  rw [closeMark, cut?_append_of_notMem h.2]
  rw [cut?_append_of_head (by decide)]
  simp

/-- A tag at the front is the next one. -/
lemma cut?_openMark_delimited (content rest : List CodePoint) :
    cut? openMark (delimited content ++ rest) = some ([], content ++ (closeMark ++ rest)) := by
  rw [delimited, List.append_assoc, List.append_assoc, cut?_append_of_head (by decide)]

lemma Content.isPlain_print (kind : BlockKind) (expression : Content) :
    IsPlain (Tag.block kind expression.chars).print := by
  have h := expression.plain
  rw [print_block]
  cases kind <;> simpa [IsPlain, BlockKind.letters] using h

/-- The printed opener has no blanks at its ends. -/
lemma Content.trim_print (kind : BlockKind) (expression : Content) :
    trim (Tag.block kind expression.chars).print = (Tag.block kind expression.chars).print := by
  rw [print_block]
  refine trim_eq_self (fun c hc => ?_) fun c hc => ?_
  · obtain rfl : '#' = c := by simpa using hc
    decide
  · refine getLast?_of_trim_eq_self expression.trimmed c ?_
    obtain ⟨d, hd⟩ := Option.ne_none_iff_exists'.mp
      (mt List.getLast?_eq_none_iff.mp expression.ne_nil)
    simpa [List.getLast?_append, List.getLast?_cons, hd] using hc

/-- Reading the opener of a block gives its kind and expression. -/
lemma Content.parse_print (kind : BlockKind) (expression : Content) :
    Tag.parse (Tag.block kind expression.chars).print = .block kind expression.chars := by
  calc Tag.parse (Tag.block kind expression.chars).print
      = .block kind (trim expression.chars) := parse_block kind expression.chars
    _ = .block kind expression.chars := by rw [expression.trimmed]

end TripProposal.Template
