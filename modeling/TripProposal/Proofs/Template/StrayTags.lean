import TripProposal.Proofs.Template.Composition
import TripProposal.Proofs.Template.LoopText

/-!
# Tags without meaning

A closer or an alternative outside of a block and an opener that nothing closes are shown as they
are, but for the blanks next to their delimiters. A template that has no other tags shows itself,
whatever the document is.
-/

namespace TripProposal.Template

open Text

variable {text before tail content rest : List CodePoint}

/-! ### The tags of a text -/

/-- The tags of a text from left to right, each with the text in front of it, and the text behind
the last one. A tag reaches from the next opening delimiter to the next closing one; without a
closing delimiter there is none. -/
def cutTags (text : List CodePoint) : List (List CodePoint × List CodePoint) × List CodePoint :=
  match h : cut? openMark text with
  | none => ([], text)
  | some (before, tail) =>
    match h' : cut? closeMark tail with
    | none => ([], text)
    | some (content, rest) =>
      have : rest.length < text.length := length_lt_of_tag h h'
      ((before, content) :: (cutTags rest).1, (cutTags rest).2)
termination_by text.length

/-- A text with the blanks next to the delimiters inside of its tags taken out. -/
def tidy (text : List CodePoint) : List CodePoint :=
  ((cutTags text).1.flatMap fun (before, content) => before ++ delimited (trim content)) ++
    (cutTags text).2

/-- No blanks stand next to the delimiters inside of the tags of a text. -/
def IsTidy (text : List CodePoint) : Prop :=
  ∀ tag ∈ (cutTags text).1, trim tag.2 = tag.2

lemma cutTags_of_not_hasTag (h : ¬ HasTag text) : cutTags text = ([], text) := by
  rw [cutTags]
  split
  · rfl
  · next before tail hopen =>
    split
    · rfl
    · next content rest hclose =>
      refine absurd ⟨before, content, rest, ?_⟩ h
      rw [cut?_eq_some_append hopen, cut?_eq_some_append hclose]

/-- The first tag is cut with the text in front of it. -/
lemma cutTags_of_tag (hopen : cut? openMark text = some (before, tail))
    (hclose : cut? closeMark tail = some (content, rest)) :
    cutTags text = ((before, content) :: (cutTags rest).1, (cutTags rest).2) := by
  rw [cutTags]
  split
  · simp_all
  · next b t hb =>
    rw [hopen] at hb
    cases hb
    split
    · simp_all
    · next c r hc =>
      rw [hclose] at hc
      cases hc
      rfl

/-- Without tags there is nothing to tidy. -/
lemma tidy_of_not_hasTag (h : ¬ HasTag text) : tidy text = text := by
  rw [tidy, cutTags_of_not_hasTag h]
  rfl

/-- The first tag loses its padding. -/
lemma tidy_of_tag (hopen : cut? openMark text = some (before, tail))
    (hclose : cut? closeMark tail = some (content, rest)) :
    tidy text = before ++ (delimited (trim content) ++ tidy rest) := by
  simp [tidy, cutTags_of_tag hopen hclose]

/-- Tidying leaves tidy text alone. -/
lemma tidy_of_isTidy (h : IsTidy text) : tidy text = text := by
  unfold IsTidy at h
  unfold tidy
  fun_induction cutTags text with
  | case1 text hopen => rfl
  | case2 text before tail hopen hclose => rfl
  | case3 text before tail hopen content rest hclose hlt ih =>
    rw [List.forall_mem_cons] at h
    have hcontent : trim content = content := h.1
    rw [List.flatMap_cons, List.append_assoc, ih h.2]
    simp only [hcontent, delimited, cut?_eq_some_append hopen, cut?_eq_some_append hclose,
      List.append_assoc]

/-! ### Stray tags -/

/-- A trimmed content of a tag has no meaning in front of a text: the tag closes a block, starts an
alternative, or opens a block that nothing in the text closes. -/
inductive IsStray (content rest : List CodePoint) : Prop
  | closer (h : content.head? = some (.char '/'))
  | alternative (h : content = "else".codePoints)
  | opener (kind : BlockKind) (h : kind.opener <+: openMark ++ content)
    (hopen : closeOffset? kind.opener kind.closer rest = none)

/-- Read from left to right, no tag of a text has a meaning. -/
inductive HasNoMeaning : List CodePoint → Prop
  | plain {text : List CodePoint} (h : ¬ HasTag text) : HasNoMeaning text
  | stray {text before tail content rest : List CodePoint}
    (hopen : cut? openMark text = some (before, tail))
    (hclose : cut? closeMark tail = some (content, rest)) (htag : IsStray (trim content) rest)
    (hrest : HasNoMeaning rest) : HasNoMeaning text

/-- A stroke makes a closer. -/
lemma parse_of_closer (h : content.head? = some (.char '/')) :
    ∃ name, Tag.parse content = .close name := by
  obtain ⟨name, rfl⟩ := List.head?_eq_some_iff.mp h
  exact ⟨trim name, parse_close name⟩

/-- An opener makes a block. -/
lemma parse_of_opener {kind : BlockKind} (h : kind.opener <+: openMark ++ content) :
    ∃ expression, Tag.parse content = .block kind expression := by
  obtain ⟨expression, h⟩ := h
  have hcontent : .char '#' :: kind.word.toList ++ .char ' ' :: expression = content := by
    simpa [BlockKind.opener, openMark] using h
  exact ⟨trim expression, hcontent ▸ parse_block kind expression⟩

/-- A stray tag becomes a segment that shows its trimmed content. -/
lemma tagSegments_of_isStray (h : IsStray (trim content) rest) :
    tagSegments content rest = .stray (trim content) :: segments rest ∨
      tagSegments content rest = .unclosed (trim content) :: segments rest := by
  rw [tagSegments]
  cases h with
  | closer h =>
    obtain ⟨name, hparse⟩ := parse_of_closer h
    rw [hparse]
    exact .inl rfl
  | alternative h =>
    have hparse : Tag.parse "else".codePoints = .otherwise := by decide
    rw [h, hparse]
    exact .inl rfl
  | opener kind h hopen =>
    obtain ⟨expression, hparse⟩ := parse_of_opener h
    right
    simp only [hparse, hopen]

/-! ### Rendering -/

/-- A template whose tags have no meaning shows itself, tidied. -/
lemma outcome_of_hasNoMeaning (engine : Engine) (depth : Nat) (scope : Scope)
    (h : HasNoMeaning text) :
    (engine.renderAt (depth + 1) scope text).outcome = .ok (tidy text) := by
  induction h with
  | plain h => rw [outcome_of_not_hasTag engine depth scope h, tidy_of_not_hasTag h]
  | @stray text before tail content rest hopen hclose htag hrest ih =>
    have hrest : (Rendering.concatMap (engine.renderSegment (engine.renderAt depth) scope)
        (segments rest)).outcome = .ok (tidy rest) := ih
    rw [Engine.renderAt, segments_of_tag hopen hclose, tidy_of_tag hopen hclose,
      Rendering.concatMap, Rendering.outcome_andThen]
    rcases tagSegments_of_isStray htag with h | h <;>
      rw [h, Rendering.concatMap, Rendering.outcome_andThen, hrest] <;> rfl

/-- A template whose tags have no meaning shows itself with its tags tidied, whatever the document
is; without blanks inside of its tags it shows itself as it is written. -/
theorem render_of_hasNoMeaning (engine : Engine) (document : Value) {template : Text}
    (h : HasNoMeaning template.toList) :
    (engine.render template document).outcome = .ok (tidy template.toList) ∧
      (IsTidy template.toList →
        (engine.render template document).outcome = .ok template.toList) := by
  obtain ⟨depth, hdepth⟩ := exists_depthFor template.toList
  have hshown : (engine.render template document).outcome = .ok (tidy template.toList) := by
    rw [Engine.render, hdepth]
    exact outcome_of_hasNoMeaning engine depth _ h
  exact ⟨hshown, fun htidy => by rw [hshown, tidy_of_isTidy htidy]⟩

/-- An alternative with blanks in its tag, an opener and the closer of another block, half a tag. -/
def strayDay : List CodePoint :=
  "Day ".codePoints ++ (delimited " else ".codePoints ++ (openerTag .whenSet "port".codePoints ++
    ("at sea".codePoints ++ (BlockKind.forEach.closer ++ (openMark ++ "name".codePoints)))))

theorem render_strayDay :
    let engine : Engine := ⟨true, .ofDate ⟨2026, 1, 1, by decide⟩⟩
    let document : Value := .object [("port", .bool true), ("name", .text "Ana")]
    HasNoMeaning strayDay ∧
      (engine.render (Text.ofList strayDay) document).outcome =
        .ok ("Day ".codePoints ++ (elseTag ++ (openerTag .whenSet "port".codePoints ++
          ("at sea".codePoints ++ (BlockKind.forEach.closer ++ (openMark ++ "name".codePoints)))))) := by
  intro engine document
  have hend : ¬ HasTag (openMark ++ "name".codePoints) := by
    rintro ⟨before, content, after, h⟩
    have hmem : CodePoint.char '}' ∈ openMark ++ "name".codePoints := by
      rw [h]
      simp [closeMark]
    exact absurd hmem (by decide)
  have hday : HasNoMeaning strayDay :=
    .stray rfl rfl (.alternative (by decide)) <|
      .stray rfl rfl (.opener .whenSet (by decide) (by decide)) <|
        .stray rfl rfl (.closer rfl) (.plain hend)
  have htidy : tidy strayDay =
      "Day ".codePoints ++ (elseTag ++ (openerTag .whenSet "port".codePoints ++
      ("at sea".codePoints ++ (BlockKind.forEach.closer ++ (openMark ++ "name".codePoints))))) := by
    decide +kernel
  refine ⟨hday, ?_⟩
  rw [← Text.toList_ofList strayDay] at hday
  rw [← htidy]
  exact (render_of_hasNoMeaning engine document hday).1

end TripProposal.Template
