import TripProposal.Proofs.Template.Padding

/-!
# Rendering piece by piece

A rendering is the rendering of the first piece of a template followed by that of the rest, a
piece being inert text, a value tag or a block with its body.
-/

namespace TripProposal.Template

open Text

variable {a content text before tail rest : List CodePoint}

/-! ### Renderings in sequence -/

namespace Rendering

/-- What a rendering comes to: its text, or the fault that ended it. -/
def outcome (r : Rendering) : Except Fault (List CodePoint) :=
  match r.fault? with
  | some fault => .error fault
  | none => .ok r.text

/-- A rendering comes to what it should, and all openers in it are closed. -/
def Shows (r : Rendering) (shown : Except Fault (List CodePoint)) : Prop :=
  r.outcome = shown ∧ r.unclosed = []

lemma andThen_ofText_append (a b : List CodePoint) (next : Unit → Rendering) :
    (ofText (a ++ b)).andThen next = (ofText a).andThen fun _ => (ofText b).andThen next := by
  simp [andThen, ofText]

lemma shows_empty : empty.Shows (.ok []) := ⟨rfl, rfl⟩

lemma shows_ofText (text : List CodePoint) : (ofText text).Shows (.ok text) := ⟨rfl, rfl⟩

lemma shows_ofExcept (shown : Except Fault (List CodePoint)) : (ofExcept shown).Shows shown := by
  cases shown <;> exact ⟨rfl, rfl⟩

/-- Of two renderings in sequence the texts are joined, and the first fault counts. -/
lemma outcome_andThen (r : Rendering) (next : Unit → Rendering) :
    (r.andThen next).outcome = do return (← r.outcome) ++ (← (next ()).outcome) := by
  unfold Rendering.andThen
  cases hf : r.fault? with
  | some fault =>
    simp only [outcome, hf]
    rfl
  | none =>
    simp only [outcome, hf]
    cases (next ()).fault? <;> rfl

/-- Nothing behind a rendering changes nothing. -/
lemma outcome_andThen_empty (r : Rendering) : (r.andThen fun _ => empty).outcome = r.outcome := by
  rw [outcome_andThen]
  cases r.outcome with
  | ok text => exact congrArg Except.ok (List.append_nil text)
  | error fault => rfl

lemma concatMap_congr {α : Type} {f g : α → Rendering} {l : List α}
    (h : ∀ v ∈ l, f v = g v) : concatMap f l = concatMap g l := by
  induction l with
  | nil => rfl
  | cons v l ih =>
    rw [Rendering.concatMap, Rendering.concatMap, h v List.mem_cons_self,
      ih fun w hw => h w (List.mem_cons_of_mem _ hw)]

lemma ofFound_congr {α : Type} {found : Except Fault α} {f g : α → Rendering}
    (h : ∀ v, found = .ok v → f v = g v) : ofFound found f = ofFound found g := by
  cases found with
  | ok v => exact h v rfl
  | error fault => rfl

/-- The text of several renderings is that of one after the other. -/
lemma outcome_concatMap {α : Type} (f : α → Rendering) (l : List α) :
    (concatMap f l).outcome = do return (← l.mapM fun v => (f v).outcome).flatten := by
  induction l with
  | nil => rfl
  | cons v l ih =>
    rw [Rendering.concatMap, outcome_andThen, ih, List.mapM_cons]
    simp

/-- What is shown one after the other is put together. -/
lemma Shows.andThen {r : Rendering} {next : Unit → Rendering}
    {shown shown' : Except Fault (List CodePoint)} (h : r.Shows shown) (h' : (next ()).Shows shown') :
    (r.andThen next).Shows do return (← shown) ++ (← shown') := by
  refine ⟨by rw [outcome_andThen, h.1, h'.1], ?_⟩
  unfold Rendering.andThen
  cases r.fault? with
  | some fault => exact h.2
  | none => simp [h.2, h'.2]

lemma Shows.ofFound {α : Type} {found : Except Fault α} {next : α → Rendering}
    {shown : α → Except Fault (List CodePoint)} (h : ∀ v, found = .ok v → (next v).Shows (shown v)) :
    (ofFound found next).Shows (found >>= shown) := by
  cases found with
  | ok v => exact h v rfl
  | error fault => exact ⟨rfl, rfl⟩

/-- What is shown for each value of a list is put together. -/
lemma Shows.concatMap {α : Type} {f : α → Rendering} {shown : α → Except Fault (List CodePoint)}
    {l : List α} (h : ∀ v ∈ l, (f v).Shows (shown v)) :
    (concatMap f l).Shows do return (← l.mapM shown).flatten := by
  induction l with
  | nil => exact shows_empty
  | cons v l ih =>
    have hl := ih fun w hw => h w (List.mem_cons_of_mem _ hw)
    have hv : ((f v).andThen fun _ => Rendering.concatMap f l).Shows _ :=
      (h v List.mem_cons_self).andThen hl
    rw [Rendering.concatMap, List.mapM_cons]
    simpa using hv

end Rendering

/-! ### Segments -/

/-- Without a tag a text is one segment. -/
lemma segments_of_no_open (h : cut? openMark text = none) : segments text = [.text text] := by
  rw [segments]
  split
  · rfl
  · simp_all

/-- So is a text in which no tag ends. -/
lemma segments_of_no_close (h : cut? openMark text = some (before, tail))
    (h' : cut? closeMark tail = none) : segments text = [.text text] := by
  rw [segments]
  split
  · rfl
  · next b t hb =>
    rw [h] at hb
    cases hb
    split
    · rfl
    · next hc =>
      rw [h'] at hc
      cases hc

/-- The segments from the first tag of a template on. -/
def tagSegments (content rest : List CodePoint) : List Segment :=
  match Tag.parse (trim content) with
  | .block kind expression =>
    match closeOffset? kind.opener kind.closer rest with
    | none => .unclosed (trim content) :: segments rest
    | some n =>
      .block kind expression (rest.take n) :: segments (rest.drop (n + kind.closer.length))
  | .close _ | .otherwise => .stray (trim content) :: segments rest
  | tag => .value tag :: segments rest

/-- The first tag divides a text. -/
lemma segments_of_tag (h : cut? openMark text = some (before, tail))
    (h' : cut? closeMark tail = some (content, rest)) :
    segments text = .text before :: tagSegments content rest := by
  rw [segments]
  split
  · simp_all
  · next b t hb =>
    rw [h] at hb
    cases hb
    split
    · simp_all
    · next c r hc =>
      rw [h'] at hc
      cases hc
      rfl

/-- Text in front of a template that no tag starts in becomes part of the first segment. -/
lemma segments_append_of_cut
    (hcut : cut? openMark (a ++ rest) = (cut? openMark rest).map fun (b, t) => (a ++ b, t)) :
    ∃ before tail, segments rest = .text before :: tail ∧
      segments (a ++ rest) = .text (a ++ before) :: tail := by
  cases ho : cut? openMark rest with
  | none =>
    rw [ho] at hcut
    exact ⟨_, _, segments_of_no_open ho, segments_of_no_open hcut⟩
  | some pieces =>
    obtain ⟨b, t⟩ := pieces
    rw [ho] at hcut
    cases hc : cut? closeMark t with
    | none => exact ⟨_, _, segments_of_no_close ho hc, segments_of_no_close hcut hc⟩
    | some pieces' => exact ⟨_, _, segments_of_tag ho hc, segments_of_tag hcut hc⟩

/-- An inert text goes before the first segment. -/
lemma segments_inert_append (h : IsInert a) (rest : List CodePoint) :
    ∃ before tail, segments rest = .text before :: tail ∧
      segments (a ++ rest) = .text (a ++ before) :: tail :=
  segments_append_of_cut (cut?_openMark_append h rest)

/-- A tag at the front is the first one. -/
lemma segments_delimited (h : IsPlain content) (rest : List CodePoint) :
    segments (delimited content ++ rest) = .text [] :: tagSegments content rest :=
  segments_of_tag (cut?_openMark_delimited content rest) (cut?_closeMark_append h rest)

/-- Whether a tag shows a value wherever it stands. -/
def Tag.ShowsValue : Tag → Prop
  | .block .. | .close _ | .otherwise => False
  | _ => True

/-- A tag that opens and closes nothing and is no alternative shows a value. -/
lemma showsValue_parse (hn : IsNeutral content) (he : content ≠ "else".codePoints) :
    (Tag.parse content).ShowsValue := by
  obtain ⟨-, ho, hc⟩ := hn
  rcases spelledBy_parse content with hspelled | hvalue
  · cases ht : Tag.parse content with
    | block kind expression =>
      rw [ht] at hspelled
      cases hspelled
      exact absurd rfl ho
    | close name =>
      rw [ht] at hspelled
      cases hspelled
      exact absurd rfl hc
    | otherwise =>
      rw [ht] at hspelled
      cases hspelled
      exact absurd rfl he
    | _ => trivial
  · rw [hvalue]
    trivial

/-- A value tag is one segment. -/
lemma tagSegments_value (content : ValueContent) (rest : List CodePoint) :
    tagSegments content.chars rest = .value (.parse content.chars) :: segments rest := by
  have h := showsValue_parse content.neutral content.ne_else
  rw [tagSegments, content.trimmed]
  cases ht : Tag.parse content.chars <;> rw [ht] at h <;> first | rfl | cases h

lemma tagText_variable (engine : Engine) (scope : Scope) (path : List CodePoint) :
    engine.tagText scope (.variable path) = (scope.resolve path).map engine.showPlain := rfl

/-! ### Templates in pieces -/

section Pieces

variable (engine : Engine) (depth : Nat) (scope : Scope)

lemma renderAt_nil : engine.renderAt (depth + 1) scope [] = .empty := by
  rw [Engine.renderAt, segments_of_no_open (by rfl)]
  rfl

/-- An inert text shows itself, then the rest follows. -/
lemma renderAt_inert_append (h : IsInert a) (rest : List CodePoint) :
    engine.renderAt (depth + 1) scope (a ++ rest) =
      (Rendering.ofText a).andThen fun _ => engine.renderAt (depth + 1) scope rest := by
  obtain ⟨before, tail, hrest, happend⟩ := segments_inert_append h rest
  rw [Engine.renderAt, Engine.renderAt, hrest, happend]
  exact Rendering.andThen_ofText_append a before _

/-- A value tag shows its value, then the rest follows. -/
lemma renderAt_value (content : ValueContent) (rest : List CodePoint) :
    engine.renderAt (depth + 1) scope (delimited content.chars ++ rest) =
      (Rendering.ofExcept (engine.tagText scope (.parse content.chars))).andThen fun _ =>
        engine.renderAt (depth + 1) scope rest := by
  rw [Engine.renderAt, segments_delimited content.plain, tagSegments_value]
  rfl

/-- A block is rendered with the body up to its closer, however its opener is padded. -/
lemma renderAt_paddedBlock (padding : Padding) (kind : BlockKind) (expression : Content)
    (body rest : List CodePoint)
    (hclose : closeOffset? kind.opener kind.closer (body ++ (kind.closer ++ rest)) =
      some body.length) :
    engine.renderAt (depth + 1) scope
        (padding.openerTag kind expression.chars ++ (body ++ (kind.closer ++ rest))) =
      (renderBlock (engine.renderAt depth) scope kind expression.chars body).andThen fun _ =>
        engine.renderAt (depth + 1) scope rest := by
  rw [Engine.renderAt, Padding.openerTag,
    segments_delimited (padding.isPlain_append (expression.isPlain_print kind)), tagSegments,
    padding.trim_append, expression.trim_print, expression.parse_print]
  have hdrop : (body ++ (kind.closer ++ rest)).drop (body.length + kind.closer.length) = rest := by
    rw [← List.append_assoc, ← List.length_append, List.drop_left]
  simp only [hclose, List.take_left, hdrop]
  rfl

/-- A block is rendered with the body up to its closer. -/
lemma renderAt_block (kind : BlockKind) (expression : Content) (body rest : List CodePoint)
    (hclose : closeOffset? kind.opener kind.closer (body ++ (kind.closer ++ rest)) =
      some body.length) :
    engine.renderAt (depth + 1) scope
        (openerTag kind expression.chars ++ (body ++ (kind.closer ++ rest))) =
      (renderBlock (engine.renderAt depth) scope kind expression.chars body).andThen fun _ =>
        engine.renderAt (depth + 1) scope rest :=
  renderAt_paddedBlock engine depth scope .none kind expression body rest hclose

/-- A condition is rendered with the two bodies around its alternative. -/
lemma renderAt_paddedChoice (padding : Padding) (expression : Content)
    (body alternative rest : List CodePoint)
    (hclose : closeOffset? BlockKind.whenSet.opener BlockKind.whenSet.closer
      (body ++ (elseTag ++ (alternative ++ (BlockKind.whenSet.closer ++ rest)))) =
        some (body ++ (elseTag ++ alternative)).length) :
    engine.renderAt (depth + 1) scope (padding.openerTag .whenSet expression.chars ++
        (body ++ (elseTag ++ (alternative ++ (BlockKind.whenSet.closer ++ rest))))) =
      (renderBlock (engine.renderAt depth) scope .whenSet expression.chars
        (body ++ (elseTag ++ alternative))).andThen fun _ =>
          engine.renderAt (depth + 1) scope rest := by
  have htext : body ++ (elseTag ++ (alternative ++ (BlockKind.whenSet.closer ++ rest))) =
      body ++ (elseTag ++ alternative) ++ (BlockKind.whenSet.closer ++ rest) := by
    simp only [List.append_assoc]
  rw [htext] at hclose ⊢
  exact renderAt_paddedBlock engine depth scope padding .whenSet expression _ rest hclose

/-- So it is without padding. -/
lemma renderAt_choice (expression : Content) (body alternative rest : List CodePoint)
    (hclose : closeOffset? BlockKind.whenSet.opener BlockKind.whenSet.closer
      (body ++ (elseTag ++ (alternative ++ (BlockKind.whenSet.closer ++ rest)))) =
        some (body ++ (elseTag ++ alternative)).length) :
    engine.renderAt (depth + 1) scope (openerTag .whenSet expression.chars ++
        (body ++ (elseTag ++ (alternative ++ (BlockKind.whenSet.closer ++ rest))))) =
      (renderBlock (engine.renderAt depth) scope .whenSet expression.chars
        (body ++ (elseTag ++ alternative))).andThen fun _ =>
          engine.renderAt (depth + 1) scope rest :=
  renderAt_paddedChoice engine depth scope .none expression body alternative rest hclose

end Pieces

end TripProposal.Template
