import TripProposal.Proofs.Template.Depth
import TripProposal.Proofs.Template.Leniency
import TripProposal.Proofs.Template.LoopText
import TripProposal.Proofs.Template.Weight

/-!
# When rendering ends

Every level that a block opens weighs less than the one around it, unless a loop writes tags from
the document into its body. So rendering ends whenever the texts of the document open no block, or
open or close no more than one tag each. With two tags in a key and two in a text a loop can write
down the template that it stands in, and rendering never ends.
-/

namespace TripProposal.Template

open Text

variable {data : Value} {scope : Scope} {fault : Fault} {path expression : List CodePoint}

/-! ### Faults that are no lack of levels -/

lemma ne_tooDeep_of_indexOf? {segment : List CodePoint} (h : indexOf? segment = .error fault) :
    fault ≠ .tooDeep := by
  rw [eq_notAnIndex_of_indexOf? h]
  nofun

lemma ne_tooDeep_of_resolve (h : scope.resolve path = .error fault) : fault ≠ .tooDeep := by
  obtain ⟨segment, -, hindex⟩ := indexOf?_of_resolve h
  exact ne_tooDeep_of_indexOf? hindex

lemma ne_tooDeep_of_target (h : scope.target expression = .error fault) : fault ≠ .tooDeep := by
  rcases error_of_target h with h | ⟨object, key, -, h | h | ⟨v, -, hindex⟩⟩
  · exact ne_tooDeep_of_resolve h
  · exact ne_tooDeep_of_resolve h
  · exact ne_tooDeep_of_resolve h
  · exact ne_tooDeep_of_indexOf? hindex

/-- A value tag needs no depth. -/
lemma ne_tooDeep_of_tagText {engine : Engine} {tag : Tag}
    (h : engine.tagText scope tag = .error fault) : fault ≠ .tooDeep := by
  rcases error_of_tagText h with h | ⟨v, -, h | h | ⟨singular, plural?, h⟩⟩
  · exact ne_tooDeep_of_resolve h
  · obtain ⟨w, -, hamount | ⟨rfl, -⟩⟩ := error_of_displayCurrency h
    · rw [(separated_of_amountOf hamount).1]
      nofun
    · nofun
  · rw [(error_of_displayUri h).1]
    nofun
  · rw [(isBeyondRange_of_countOf (eq_error_of_map h)).1]
    nofun

/-! ### Levels -/

/-- With a document whose texts and keys are light, a template opens no more levels than it
weighs. -/
lemma levelInvariant_light (engine : Engine) (w : Weight) (hdata : data.EachText w.Light) :
    LevelInvariant engine (· ≠ .tooDeep)
      fun depth scope template => scope.Within data ∧ w.weigh template < depth where
  bottom h := absurd h.2 (Nat.not_lt_zero _)
  value _ _ h := ne_tooDeep_of_tagText h
  path _ _ h := h.elim ne_tooDeep_of_resolve ne_tooDeep_of_target
  level h hm hopens := by
    have hbody := w.weigh_body_lt hm
    have htext := w.weigh_le_of_opens hdata h.1 hopens
    exact ⟨hopens.within h.1, by omega⟩

/-- Where nothing gets heavier, the length of the template is depth enough. -/
lemma ends_renderAt (engine : Engine) (w : Weight) (hdata : data.EachText w.Light)
    {template : List CodePoint} {depth : Nat} (hdepth : template.length < depth) :
    (engine.renderAt depth (.root data) template).Ends := by
  have hweight : w.weigh template < depth := Nat.lt_of_le_of_lt (w.le_length template) hdepth
  intro h
  exact (levelInvariant_light engine w hdata).faultsIn_renderAt ⟨Scope.Within.root, hweight⟩ _ h rfl

/-- Rendering ends, and no template opens more levels than it has characters, if each text and key
of the document opens at most one tag, or each closes at most one, or none opens a block. -/
theorem render_ends (engine : Engine) (template : Text) {data : Value}
    (hdata : data.EachText OpensOnce ∨ data.EachText ClosesOnce ∨ data.EachText OpensNoBlock) :
    (engine.render template data).Ends ∧ ∀ depth, template.toList.length < depth →
      engine.renderAt depth (.root data) template.toList = engine.render template data := by
  have hends : ∀ depth, template.toList.length < depth →
      (engine.renderAt depth (.root data) template.toList).Ends := by
    intro depth hdepth
    rcases hdata with hdata | hdata | hdata
    · exact ends_renderAt engine .opening hdata hdepth
    · exact ends_renderAt engine .closing hdata hdepth
    · exact ends_renderAt engine .hashes hdata hdepth
  have hall : template.toList.length < depthFor template.toList :=
    Nat.lt_add_of_pos_right (by decide)
  refine ⟨hends _ hall, ?_⟩
  intro depth hdepth
  have hfirst := renderAt_of_le hdepth (hends _ (Nat.lt_succ_self _))
  have hrender := renderAt_of_le hall (hends _ (Nat.lt_succ_self _))
  exact hfirst.trans hrender.symm

/-- A document with a tag in its only text. -/
def taggedItem : Value := single (.list [.text (Text.ofList (delimited "x.length".codePoints))])

lemma opensOnce_taggedItem : taggedItem.EachText OpensOnce := by
  have hparts : ∀ v, taggedItem.Holds v → v = taggedItem ∨
      v = .list [.text (Text.ofList (delimited "x.length".codePoints))] ∨
      v = .text (Text.ofList (delimited "x.length".codePoints)) := by
    intro v hv
    cases hv with
    | self => exact .inl rfl
    | field hfield h =>
      cases List.mem_singleton.mp hfield
      cases h with
      | self => exact .inr (.inl rfl)
      | item hitem h =>
        cases List.mem_singleton.mp hitem
        cases h
        exact .inr (.inr rfl)
  constructor
  · intro s hs
    rcases hparts _ hs with h | h | h <;> cases h
    decide
  · intro fields hfields key v hm
    rcases hparts _ hfields with h | h | h <;> cases h
    cases List.mem_singleton.mp hm
    decide

theorem render_ends_taggedItem :
    let engine : Engine := ⟨true, .ofDate ⟨2026, 1, 1, by decide⟩⟩
    let template := Text.ofList (eachTemplate itemBody)
    taggedItem.EachText OpensOnce ∧ (engine.render template taggedItem).Ends ∧
      engine.renderAt 100 (.root taggedItem) template.toList =
        engine.render template taggedItem := by
  intro engine template
  obtain ⟨hends, hdepth⟩ := render_ends engine template (.inl opensOnce_taggedItem)
  exact ⟨opensOnce_taggedItem, hends, hdepth 100 (by decide)⟩

/-! ### A document that unfolds without end -/

/-- A rendering ends unless the depth was not enough. -/
lemma ends_iff_outcome {r : Rendering} : r.Ends ↔ r.outcome ≠ .error .tooDeep := by
  unfold Rendering.Ends Rendering.outcome
  cases r.fault? <;> simp

/-- The body that shows a key and its value. -/
def unfoldingBody : List CodePoint := keyMarker ++ itemMarker

/-- A document whose only key opens a loop and whose only text closes one; each holds a marker, so
that they are written into themselves. -/
def unfolding : Value :=
  .object [(Text.ofList (openerTag .forEach "x".codePoints ++ keyMarker),
    .text (Text.ofList (itemMarker ++ BlockKind.forEach.closer)))]

/-- The key and the text make the body the template that it is the body of. -/
lemma body_unfolding :
    (entriesOf (some unfolding)).map (fun entry => entry.body unfoldingBody) =
      [eachTemplate unfoldingBody] := by
  decide +kernel

/-- No number of levels is enough for a document that writes the template down again. -/
theorem not_ends_unfolding :
    let engine : Engine := ⟨true, .ofDate ⟨2026, 1, 1, by decide⟩⟩
    ∀ depth,
      ¬ (engine.renderAt depth (.root (single unfolding)) (eachTemplate unfoldingBody)).Ends := by
  intro engine depth
  rw [ends_iff_outcome, not_not]
  induction depth with
  | zero => rfl
  | succ depth ih =>
    have hplain : ∀ entry ∈ entriesOf (some unfolding), opensScope entry.value = false := by decide
    rw [outcome_eachTemplate engine depth (by decide) hplain, body_unfolding, Engine.showLines,
      List.mapM_cons, ih]
    rfl

end TripProposal.Template
