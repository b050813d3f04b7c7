import TripProposal.Proofs.Template.Depth

/-!
# Templates one after the other

A template whose tags and blocks all end in it is rendered the same whatever stands behind it. A
closer is searched for in the whole text that is left, but the first one in a text is the first one
in every longer text too.
-/

namespace TripProposal.Template

open Text

/-! ### Complete templates -/

/-- Read from left to right, every tag of a template ends in it, and so does every block. -/
inductive IsComplete : List CodePoint → Prop
  | plain {text : List CodePoint} (h : cut? openMark text = none) : IsComplete text
  | tag {text before tail content rest : List CodePoint}
    (hopen : cut? openMark text = some (before, tail))
    (hclose : cut? closeMark tail = some (content, rest))
    (htag : (Tag.parse (trim content)).isBlock = false) (hrest : IsComplete rest) : IsComplete text
  | block {text before tail content rest expression : List CodePoint} {kind : BlockKind} {n : Nat}
    (hopen : cut? openMark text = some (before, tail))
    (hclose : cut? closeMark tail = some (content, rest))
    (htag : Tag.parse (trim content) = .block kind expression)
    (hend : closeOffset? kind.opener kind.closer rest = some n)
    (hrest : IsComplete (rest.drop (n + kind.closer.length))) : IsComplete text

/-- No tag starts across the end of one text and the start of the next. -/
def Meets (first second : List CodePoint) : Prop :=
  first.getLast? ≠ some (.char '{') ∨ second.head? ≠ some (.char '{')

instance : DecidableRel Meets := fun first second =>
  inferInstanceAs (Decidable (first.getLast? ≠ some (.char '{') ∨ second.head? ≠ some (.char '{')))

variable {a b text before tail content rest second expression : List CodePoint} {kind : BlockKind}
  {n : Nat}

/-- The end of a text meets what follows as the text does. -/
lemma Meets.of_append (h : Meets (a ++ b) second) : Meets b second := by
  cases b with
  | nil => exact .inl nofun
  | cons c b =>
    rw [Meets, List.getLast?_append_of_ne_nil _ (List.cons_ne_nil c b)] at h
    exact h

lemma Meets.not_open {c : CodePoint} (h : Meets [c] second) :
    openMark.isPrefixOf (c :: second) = false := by
  cases second with
  | nil => simp [openMark, List.isPrefixOf_cons_cons]
  | cons d second =>
    simp only [openMark, List.isPrefixOf_cons_cons, Bool.and_eq_false_iff, beq_eq_false_iff_ne]
    rcases h with h | h
    · exact .inl fun hc => h (congrArg some hc.symm)
    · exact .inr (.inl fun hd => h (congrArg some hd.symm))

/-- What is behind a tag meets what follows as the text does. -/
lemma Meets.of_tag (h : Meets text second) (hopen : cut? openMark text = some (before, tail))
    (hclose : cut? closeMark tail = some (content, rest)) : Meets rest second := by
  rw [cut?_eq_some_append hopen, cut?_eq_some_append hclose, ← List.append_assoc] at h
  exact h.of_append

/-! ### What is found stays where it is -/

/-- A text that is long enough decides alone whether a pattern is in front. -/
lemma isPrefixOf_append_of_length_le {pattern : List CodePoint} (h : pattern.length ≤ text.length)
    (second : List CodePoint) : pattern.isPrefixOf (text ++ second) = pattern.isPrefixOf text := by
  rw [Bool.eq_iff_iff, List.isPrefixOf_iff_prefix, List.isPrefixOf_iff_prefix]
  constructor
  · exact fun hp => List.prefix_of_prefix_length_le hp (List.prefix_append text second) h
  · exact fun hp => hp.trans (List.prefix_append text second)

lemma isPrefixOf_eq_false {pattern : List CodePoint} (h : pattern.isPrefixOf? text = none) :
    pattern.isPrefixOf text = false := by
  rw [← Bool.not_eq_true, List.isPrefixOf_iff_prefix]
  rintro ⟨rest, rfl⟩
  rw [isPrefixOf?_append] at h
  cases h

lemma length_le_of_cut? {pattern : List CodePoint} (h : cut? pattern text = some (before, rest)) :
    pattern.length ≤ text.length := by
  rw [cut?_eq_some_append h, List.length_append, List.length_append]
  omega

/-- The first occurrence of a pattern in a text is its first in every longer text. -/
lemma cut?_append_of_some {pattern : List CodePoint} (hne : pattern ≠ [])
    (h : cut? pattern text = some (before, rest)) (second : List CodePoint) :
    cut? pattern (text ++ second) = some (before, rest ++ second) := by
  induction text generalizing before with
  | nil => simp [cut?, hne] at h
  | cons c text ih =>
    cases hp : pattern.isPrefixOf? (c :: text) with
    | some after =>
      simp only [cut?, hp, Option.some.injEq, Prod.mk.injEq] at h
      obtain ⟨rfl, rfl⟩ := h
      rw [isPrefixOf?_eq_some_append hp, List.append_assoc, cut?_append_of_head hne]
    | none =>
      simp only [cut?, hp] at h
      obtain ⟨⟨b, r⟩, hcut, heq⟩ := Option.map_eq_some_iff.mp h
      obtain ⟨rfl, rfl⟩ := Prod.mk.inj heq
      have hlength : pattern.length ≤ (c :: text).length := (length_le_of_cut? hcut).trans (by simp)
      have hno : pattern.isPrefixOf (c :: (text ++ second)) = false := by
        rw [← List.cons_append, isPrefixOf_append_of_length_le hlength]
        exact isPrefixOf_eq_false hp
      rw [List.cons_append, cut?_cons_of_not hno, ih hcut]
      rfl

section Closers

variable {opener closer : List CodePoint} {skip depth : Nat}

/-- A closer that is found is in the text. -/
lemma closeFrom_le (h : closeFrom opener closer skip depth text = some n) :
    n + closer.length ≤ text.length := by
  induction text generalizing skip depth n with
  | nil => simp [closeFrom] at h
  | cons c text ih =>
    have hnext {skip depth : Nat}
        (h : (closeFrom opener closer skip depth text).map (· + 1) = some n) :
        n + closer.length ≤ (c :: text).length := by
      obtain ⟨m, hm, rfl⟩ := Option.map_eq_some_iff.mp h
      have hm := ih hm
      rw [List.length_cons]
      omega
    cases skip with
    | succ skip => exact hnext h
    | zero =>
      simp only [closeFrom] at h
      split at h
      · next hc =>
        cases depth with
        | zero =>
          obtain rfl := Option.some.inj h
          simpa using (List.isPrefixOf_iff_prefix.mp hc).length_le
        | succ depth => exact hnext h
      · split at h <;> exact hnext h

/-- The closer of a block in a text is its closer in every longer text, openers being no longer than
closers. -/
lemma closeFrom_append (hlength : opener.length ≤ closer.length)
    (h : closeFrom opener closer skip depth text = some n) (second : List CodePoint) :
    closeFrom opener closer skip depth (text ++ second) = some n := by
  induction text generalizing skip depth n with
  | nil => simp [closeFrom] at h
  | cons c text ih =>
    have hnext {skip depth : Nat}
        (h : (closeFrom opener closer skip depth text).map (· + 1) = some n) :
        (closeFrom opener closer skip depth (text ++ second)).map (· + 1) = some n := by
      obtain ⟨m, hm, rfl⟩ := Option.map_eq_some_iff.mp h
      rw [ih hm]
      rfl
    cases skip with
    | succ skip => exact hnext h
    | zero =>
      -- The closer that is found is still to come, so neither test reaches behind the text.
      have hcloser : closer.length ≤ (c :: text).length :=
        (Nat.le_add_left _ _).trans (closeFrom_le h)
      have hc := isPrefixOf_append_of_length_le hcloser second
      have ho := isPrefixOf_append_of_length_le (hlength.trans hcloser) second
      rw [List.cons_append] at hc ho ⊢
      simp only [closeFrom, hc, ho] at h ⊢
      split at h
      · next hprefix =>
        rw [if_pos hprefix]
        cases depth with
        | zero => exact h
        | succ depth => exact hnext h
      · next hprefix =>
        rw [if_neg hprefix]
        split at h
        · next hopens => rw [if_pos hopens, hnext h]
        · next hopens => rw [if_neg hopens, hnext h]

end Closers

/-- Closers are no shorter than openers, so that a closer that is found hides no opener. -/
lemma length_opener_le (kind : BlockKind) : kind.opener.length ≤ kind.closer.length := by
  cases kind <;> decide

/-- A closer that is found stays the one. -/
lemma closeOffset?_append (h : closeOffset? kind.opener kind.closer text = some n)
    (second : List CodePoint) : closeOffset? kind.opener kind.closer (text ++ second) = some n :=
  closeFrom_append (length_opener_le kind) h second

/-! ### Segments -/

/-- The next tag of a text without tags is that of the text behind it. -/
lemma cut?_openMark_meets (h : cut? openMark text = none) (hmeets : Meets text second) :
    cut? openMark (text ++ second) = (cut? openMark second).map fun (b, t) => (text ++ b, t) := by
  induction text with
  | nil => simp
  | cons c text ih =>
    cases hp : openMark.isPrefixOf? (c :: text) with
    | some after => simp [cut?, hp] at h
    | none =>
      have hrest : cut? openMark text = none := by simpa [cut?, hp] using h
      have hno : openMark.isPrefixOf (c :: (text ++ second)) = false := by
        cases text with
        | nil => exact hmeets.not_open
        | cons d text =>
          have hlength : openMark.length ≤ (c :: d :: text).length := by simp [openMark]
          rw [← List.cons_append, isPrefixOf_append_of_length_le hlength, isPrefixOf_eq_false hp]
      rw [List.cons_append, cut?_cons_of_not hno, ih hrest (hmeets.of_append (a := [c])),
        Option.map_map]
      rfl

/-- A tag that opens no block is one segment. -/
lemma tagSegments_of_not_block (h : (Tag.parse (trim content)).isBlock = false) :
    ∃ segment, ∀ rest, tagSegments content rest = segment :: segments rest := by
  unfold tagSegments
  cases ht : Tag.parse (trim content) with
  | block kind expression => simp [ht, Tag.isBlock] at h
  | _ => exact ⟨_, fun rest => rfl⟩

/-- A block is a segment with its body. -/
lemma tagSegments_of_block (htag : Tag.parse (trim content) = .block kind expression)
    (hend : closeOffset? kind.opener kind.closer rest = some n) :
    tagSegments content rest =
      .block kind expression (rest.take n) :: segments (rest.drop (n + kind.closer.length)) := by
  simp only [tagSegments, htag, hend]

/-- The segments of a complete template end in a text, and whatever stands behind the template is cut
into segments from there on. -/
lemma segments_append (ha : IsComplete a) (hmeets : Meets a b) :
    ∃ init last before tail, segments a = init ++ [.text last] ∧ segments b = .text before :: tail ∧
      segments (a ++ b) = init ++ .text (last ++ before) :: tail := by
  -- On how the first text divides; a block that is closed there is closed at the same place.
  induction ha with
  | plain h =>
    obtain ⟨before, tail, hb, happend⟩ := segments_append_of_cut (cut?_openMark_meets h hmeets)
    exact ⟨[], _, before, tail, segments_of_no_open h, hb, happend⟩
  | @tag text before tail content rest hopen hclose htag hrest ih =>
    obtain ⟨segment, hsegment⟩ := tagSegments_of_not_block htag
    obtain ⟨init, last, start, others, hinit, hb, happend⟩ := ih (hmeets.of_tag hopen hclose)
    have hopen' := cut?_append_of_some (by decide) hopen b
    have hclose' := cut?_append_of_some (by decide) hclose b
    refine ⟨.text before :: segment :: init, last, start, others, ?_, hb, ?_⟩
    · rw [segments_of_tag hopen hclose, hsegment, hinit]
      rfl
    · rw [segments_of_tag hopen' hclose', hsegment, happend]
      rfl
  | @block text before tail content rest expression kind n hopen hclose htag hend hrest ih =>
    have hmeets' : Meets (rest.drop (n + kind.closer.length)) b := by
      have h := hmeets.of_tag hopen hclose
      rw [← List.take_append_drop (n + kind.closer.length) rest] at h
      exact h.of_append
    obtain ⟨init, last, start, others, hinit, hb, happend⟩ := ih hmeets'
    have hopen' := cut?_append_of_some (by decide) hopen b
    have hclose' := cut?_append_of_some (by decide) hclose b
    have hle := closeFrom_le hend
    refine ⟨.text before :: .block kind expression (rest.take n) :: init, last, start, others, ?_, hb,
      ?_⟩
    · rw [segments_of_tag hopen hclose, tagSegments_of_block htag hend, hinit]
      rfl
    · rw [segments_of_tag hopen' hclose', tagSegments_of_block htag (closeOffset?_append hend b),
        List.drop_append_of_le_length hle, List.take_append_of_le_length (by omega), happend]
      rfl

/-! ### Renderings -/

namespace Rendering

lemma andThen_empty (r : Rendering) : (r.andThen fun _ => empty) = r := by
  unfold Rendering.andThen
  cases hf : r.fault? with
  | some fault => rfl
  | none => simp [empty, ← hf]

/-- It does not matter how renderings are put together. -/
lemma andThen_assoc (r : Rendering) (next last : Unit → Rendering) :
    (r.andThen next).andThen last = r.andThen fun _ => (next ()).andThen last := by
  unfold Rendering.andThen
  cases hf : r.fault? with
  | some fault => simp only [hf]
  | none =>
    cases hn : (next ()).fault? with
    | some fault => simp only [hn]
    | none => simp only [List.append_assoc]

/-- The renderings of two lists follow each other. -/
lemma concatMap_append {α : Type} (f : α → Rendering) (l l' : List α) :
    concatMap f (l ++ l') = (concatMap f l).andThen fun _ => concatMap f l' := by
  induction l with
  | nil => rfl
  | cons a l ih => rw [List.cons_append, concatMap, concatMap, ih, andThen_assoc]

/-- A rendering ends with a text when there is no fault. -/
lemma outcome_eq_ok {r : Rendering} {text : List CodePoint} :
    r.outcome = .ok text ↔ r.fault? = none ∧ r.text = text := by
  unfold outcome
  cases r.fault? <;> simp

end Rendering

/-- On one level, templates one after the other are rendered one after the other. -/
lemma renderAt_append {engine : Engine} {scope : Scope} (ha : IsComplete a) (hmeets : Meets a b)
    (depth : Nat) :
    engine.renderAt (depth + 1) scope (a ++ b) =
      (engine.renderAt (depth + 1) scope a).andThen fun _ =>
        engine.renderAt (depth + 1) scope b := by
  obtain ⟨init, last, before, tail, hinit, hb, happend⟩ := segments_append ha hmeets
  rw [Engine.renderAt, Engine.renderAt, Engine.renderAt, hinit, hb, happend,
    Rendering.concatMap_append, Rendering.concatMap_append, Rendering.andThen_assoc]
  -- The text that the first template ends in and the one the second starts with are one segment.
  have hjoin : Rendering.concatMap (engine.renderSegment (engine.renderAt depth) scope)
      (.text (last ++ before) :: tail) = (Rendering.ofText last).andThen fun _ =>
        Rendering.concatMap (engine.renderSegment (engine.renderAt depth) scope)
          (.text before :: tail) :=
    Rendering.andThen_ofText_append last before _
  have hlast : Rendering.concatMap (engine.renderSegment (engine.renderAt depth) scope)
      [.text last] = Rendering.ofText last :=
    Rendering.andThen_empty _
  rw [hjoin, hlast]

lemma exists_depthFor (template : List CodePoint) : ∃ depth, depthFor template = depth + 1 :=
  ⟨template.length + 9999, rfl⟩

/-- A complete template and any template behind it are rendered one after the other, unless a tag
starts across them. -/
theorem render_append (engine : Engine) (document : Value) {first second : Text}
    {text text' : List CodePoint} (hcomplete : IsComplete first.toList)
    (hmeets : Meets first.toList second.toList)
    (h : (engine.render first document).outcome = .ok text)
    (h' : (engine.render second document).outcome = .ok text') :
    (engine.render (first ++ second) document).outcome = .ok (text ++ text') := by
  obtain ⟨hno, -⟩ := Rendering.outcome_eq_ok.mp h
  obtain ⟨hno', -⟩ := Rendering.outcome_eq_ok.mp h'
  have hle : depthFor first.toList ≤ depthFor (first.toList ++ second.toList) := by
    simp [depthFor]
  have hle' : depthFor second.toList ≤ depthFor (first.toList ++ second.toList) := by
    simp [depthFor]
  have hfirst := renderAt_of_le hle (Rendering.ends_of_fault?_eq_none hno)
  have hsecond := renderAt_of_le hle' (Rendering.ends_of_fault?_eq_none hno')
  obtain ⟨depth, hdepth⟩ := exists_depthFor (first.toList ++ second.toList)
  rw [hdepth] at hfirst hsecond
  rw [Engine.render, Text.toList_append, hdepth, renderAt_append hcomplete hmeets,
    Rendering.outcome_andThen, hfirst, hsecond]
  change (do return (← (engine.render first document).outcome) ++
    (← (engine.render second document).outcome)) = _
  rw [h, h']
  rfl

/-- A greeting for those who have a name. -/
def greeting : List CodePoint :=
  openerTag .whenSet "name".codePoints ++
    ("Dear ".codePoints ++ delimited "name".codePoints ++ BlockKind.whenSet.closer)

/-- A text with a closer and half a tag that mean nothing there. -/
def strayTags : List CodePoint :=
  ", ".codePoints ++ BlockKind.whenSet.closer ++ openMark ++ "welcome".codePoints

/-- A greeting, and a text that is put behind it. -/
theorem render_append_greeting :
    let engine : Engine := ⟨true, .ofDate ⟨2026, 1, 1, by decide⟩⟩
    let document : Value := .object [("name", .text "Ana")]
    IsComplete greeting ∧ Meets greeting strayTags ∧
      (engine.render (Text.ofList greeting ++ Text.ofList strayTags) document).outcome =
        .ok ("Dear Ana".codePoints ++ strayTags) := by
  intro engine document
  have hcomplete : IsComplete greeting := by
    have htag : Tag.parse (trim (Tag.block .whenSet "name".codePoints).print) =
        .block .whenSet "name".codePoints := by decide
    have hend : closeOffset? BlockKind.whenSet.opener BlockKind.whenSet.closer
        ("Dear ".codePoints ++ delimited "name".codePoints ++ BlockKind.whenSet.closer) = some 13 := by
      decide
    exact .block (cut?_openMark_delimited _ _) (cut?_closeMark_append (by decide) _) htag hend
      (.plain (by decide))
  have hmeets : Meets greeting strayTags := by decide
  have h : (engine.render (Text.ofList greeting) document).outcome = .ok "Dear Ana".codePoints := by
    decide +kernel
  have h' : (engine.render (Text.ofList strayTags) document).outcome = .ok strayTags := by
    decide +kernel
  refine ⟨hcomplete, hmeets, ?_⟩
  rw [← Text.toList_ofList greeting] at hcomplete hmeets
  rw [← Text.toList_ofList strayTags] at hmeets
  exact render_append engine document hcomplete hmeets h h'

end TripProposal.Template
