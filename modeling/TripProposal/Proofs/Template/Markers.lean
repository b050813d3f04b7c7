import TripProposal.Proofs.Template.Nesting

/-!
# Markers of loops

A loop replaces its markers in the text of its body. On the text of a tree that fills in value
tags and touches nothing else, because no other tag reads like a marker and no tag starts inside
the literal text.
-/

namespace TripProposal.Template

open Text

variable {content marker replacement : List CodePoint}
  {fill : List CodePoint → Option (List CodePoint)}

/-! ### Replacing a marker -/

/-- In inert text there is nothing to replace. -/
lemma replaceFrom_inert {a : List CodePoint} (h : IsInert a) (rest : List CodePoint) :
    replaceFrom (delimited marker) replacement 0 (a ++ rest) =
      a ++ replaceFrom (delimited marker) replacement 0 rest := by
  induction a with
  | nil => rfl
  | cons c a ih =>
    have hc := isPrefixOf_eq_false_of_start (openMark_prefix_delimited marker) (h.not_open rest)
    rw [List.cons_append, replaceFrom_cons_of_not hc, ih h.tail, List.cons_append]

/-- A tag is replaced when it is the marker. -/
lemma replaceFrom_tag (hm : IsPlain marker) (h : IsPlain content) (rest : List CodePoint) :
    replaceFrom (delimited marker) replacement 0 (delimited content ++ rest) =
      (if content = marker then replacement else delimited content) ++
        replaceFrom (delimited marker) replacement 0 rest := by
  by_cases hc : content = marker
  · subst hc
    rw [if_pos rfl, replaceFrom_append_self (by simp [delimited_eq_cons])]
  · have hp : (delimited marker).isPrefixOf (delimited content ++ rest) = false := by
      simp [isPrefixOf_delimited hm h, Ne.symm hc]
    rw [delimited_eq_cons content, List.cons_append] at hp
    rw [if_neg hc, delimited_eq_cons content, List.cons_append, replaceFrom_cons_of_not hp,
      replaceFrom_inert (isInert_tag h)]
    rfl

/-- Whether a content is that of no tag in a tree but a value tag. -/
def IsMarker (content : List CodePoint) : Prop :=
  IsPlain content ∧ CodePoint.char '#' ∉ content ∧ content.head? ≠ some (.char '/') ∧
    content ≠ "else".codePoints

instance : DecidablePred IsMarker := fun content =>
  inferInstanceAs (Decidable
    (IsPlain content ∧ CodePoint.char '#' ∉ content ∧ content.head? ≠ some (.char '/') ∧
      content ≠ "else".codePoints))

/-- An opener is no marker, however it is padded. -/
lemma replaceFrom_paddedOpener (hm : IsMarker marker) (padding : Padding) (kind : BlockKind)
    (expression : Content) (rest : List CodePoint) :
    replaceFrom (delimited marker) replacement 0
        (padding.openerTag kind expression.chars ++ rest) =
      padding.openerTag kind expression.chars ++
        replaceFrom (delimited marker) replacement 0 rest := by
  rw [Padding.openerTag,
    replaceFrom_tag hm.1 (padding.isPlain_append (expression.isPlain_print kind)),
    if_neg]
  rintro rfl
  exact hm.2.1 (by simp [print_block])

lemma replaceFrom_closer (hm : IsMarker marker) (kind : BlockKind) (rest : List CodePoint) :
    replaceFrom (delimited marker) replacement 0 (kind.closer ++ rest) =
      kind.closer ++ replaceFrom (delimited marker) replacement 0 rest := by
  rw [BlockKind.closer_eq, replaceFrom_tag hm.1 (by cases kind <;> decide), if_neg]
  rintro rfl
  exact hm.2.2.1 rfl

lemma replaceFrom_elseTag (hm : IsMarker marker) (rest : List CodePoint) :
    replaceFrom (delimited marker) replacement 0 (elseTag ++ rest) =
      elseTag ++ replaceFrom (delimited marker) replacement 0 rest := by
  rw [elseTag, replaceFrom_tag hm.1 isPlain_else, if_neg (Ne.symm hm.2.2.2)]

/-- What is filled in when a marker is replaced after the tags in the domain of `fill`. -/
def refill (fill : List CodePoint → Option (List CodePoint))
    (marker replacement content : List CodePoint) :
    Option (List CodePoint) :=
  (fill content).orElse fun _ => if content = marker then some replacement else none

/-- Replacing a marker in a text fills this marker in the tree. -/
lemma PaddedTree.replaceFrom_textWith (hm : IsMarker marker) (hfill : IsInertFill fill)
    (t : PaddedTree) (rest : List CodePoint) :
    replaceFrom (delimited marker) replacement 0 (t.textWith fill ++ rest) =
      t.textWith (refill fill marker replacement) ++
        replaceFrom (delimited marker) replacement 0 rest := by
  induction t generalizing rest with
  | nil => rfl
  | text literal next ih =>
    simp only [PaddedTree.textWith, List.append_assoc]
    rw [replaceFrom_inert literal.inert, ih]
  | value content next ih =>
    simp only [PaddedTree.textWith, List.append_assoc, refill]
    cases hc : fill content.chars with
    | some text =>
      rw [Option.getD_some, replaceFrom_inert (hfill _ _ hc), ih]
      rfl
    | none =>
      rw [Option.getD_none, replaceFrom_tag hm.1 content.plain, ih]
      split <;> rfl
  | block padding kind expression body next ihBody ihNext =>
    simp only [PaddedTree.textWith, List.append_assoc]
    rw [replaceFrom_paddedOpener hm, ihBody, replaceFrom_closer hm, ihNext]
  | choice padding expression body alternative next ihBody ihAlternative ihNext =>
    simp only [PaddedTree.textWith, List.append_assoc]
    rw [replaceFrom_paddedOpener hm, ihBody, replaceFrom_elseTag hm, ihAlternative,
      replaceFrom_closer hm, ihNext]

/-- Replacing a marker in the text of a tree fills in the value tags that are the marker. -/
lemma PaddedTree.replaceAll_textWith (hm : IsMarker marker) (hfill : IsInertFill fill)
    (replacement : List CodePoint) (t : PaddedTree) :
    replaceAll (delimited marker) replacement (t.textWith fill) =
      t.textWith (refill fill marker replacement) := by
  rw [replaceAll, ← List.append_nil (t.textWith fill), t.replaceFrom_textWith hm hfill]
  exact List.append_nil _

/-! ### The body of a loop -/

/-- Inert replacements keep the text inert. -/
lemma isInertFill_refill (hfill : IsInertFill fill) (hr : IsInert replacement) :
    IsInertFill (refill fill marker replacement) := by
  intro content text h
  rw [refill] at h
  cases hc : fill content with
  | some other =>
    rw [hc] at h
    exact hfill content text (hc.trans h)
  | none =>
    rw [hc, Option.orElse_none] at h
    split at h
    · exact Option.some.inj h ▸ hr
    · cases h

lemma isInertFill_none : IsInertFill fun _ => none := fun _ _ h => nomatch h

namespace Entry

variable {entry : Entry}

/-- What is filled in when the markers of an entry are replaced after the tags in the domain of
`fill`. -/
def refill (entry : Entry) (fill : List CodePoint → Option (List CodePoint)) :
    List CodePoint → Option (List CodePoint) :=
  let placed := Template.refill (Template.refill fill "@index".codePoints (decimal entry.position))
    "@key".codePoints entry.key
  if opensScope entry.value then placed
  else Template.refill placed "this".codePoints (display (some entry.value))

/-- The body of a loop for an entry is its tree with the markers of the entry filled in. -/
lemma body_paddedText (hkey : IsInert entry.key) (hindex : IsInert (decimal entry.position))
    (hfill : IsInertFill fill) (t : PaddedTree) :
    entry.body (t.textWith fill) = t.textWith (entry.refill fill) := by
  have hi : IsInertFill (Template.refill fill "@index".codePoints (decimal entry.position)) :=
    isInertFill_refill hfill hindex
  have hk : IsInertFill (Template.refill _ "@key".codePoints entry.key) :=
      isInertFill_refill hi hkey
  rw [Entry.body, Entry.refill, indexMarker, keyMarker, itemMarker,
    t.replaceAll_textWith (by decide) hfill, t.replaceAll_textWith (by decide) hi]
  split
  · rfl
  · rw [t.replaceAll_textWith (by decide) hk]

/-- The body for an entry has its markers filled. -/
lemma body_textWith (hkey : IsInert entry.key) (hindex : IsInert (decimal entry.position))
    (hfill : IsInertFill fill) (t : Tree) :
    entry.body (t.textWith fill) = t.textWith (entry.refill fill) := by
  rw [← t.textWith_padded, ← t.textWith_padded, body_paddedText hkey hindex hfill]

/-- On the written body of a loop nothing but the markers of the entry is filled in. -/
lemma refill_none (entry : Entry) : entry.refill (fun _ => none) = entry.marker? := by
  funext content
  simp only [Entry.refill, Entry.marker?]
  split <;> next hs =>
    simp only [Template.refill, hs]
    split
    · rfl
    · split <;> simp_all

/-- The body of a loop that is in no other one has the markers of its entry filled. -/
lemma body_print (entry : Entry) (hkey : IsPlain entry.key)
    (hindex : IsPlain (decimal entry.position)) (t : Tree) :
    entry.body t.print = t.textWith entry.marker? := by
  rw [Tree.print, body_textWith hkey.inert hindex.inert isInertFill_none, refill_none]

end Entry

/-! ### Where markers stand -/

@[simp] lemma loopMarker?_none (content : List CodePoint) : loopMarker? none content = none := rfl

@[simp] lemma loopMarker?_some (entry : Entry) : loopMarker? (some entry) = entry.marker? := rfl

lemma loopMarker?_of_notMem (loop : Option Entry) (h : content ∉ markerContents) :
    loopMarker? loop content = none := by
  cases loop with
  | none => rfl
  | some entry =>
    simp only [markerContents, List.mem_cons, List.not_mem_nil, or_false, not_or] at h
    rw [loopMarker?_some, Entry.marker?, if_neg h.1, if_neg h.2.1, if_neg fun hc => h.2.2 hc.1]

/-- Deeper than one loop no marker is filled in. -/
lemma Tree.textWith_deeper (loop : Option Entry) {t : Tree} (h : t.MarkersFit .deeper) :
    t.textWith (loopMarker? loop) = t.print := by
  rw [Tree.print]
  induction t with
  | nil => rfl
  | text literal next ih =>
    simp only [Tree.MarkersFit] at h
    simp only [Tree.textWith, ih h]
  | value content next ih =>
    simp only [Tree.MarkersFit, forall_const] at h
    simp only [Tree.textWith, ih h.2, loopMarker?_of_notMem loop h.1]
  | block kind expression body next ihBody ihNext =>
    have hbody : body.MarkersFit .deeper := by
      cases kind <;> exact h.1
    simp only [Tree.textWith, ihBody hbody, ihNext h.2]
  | choice expression body alternative next ihBody ihAlternative ihNext =>
    simp only [Tree.MarkersFit] at h
    simp only [Tree.textWith, ihBody h.1, ihAlternative h.2.1, ihNext h.2.2]

end TripProposal.Template
