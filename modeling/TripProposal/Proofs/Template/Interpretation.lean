import TripProposal.Proofs.Template.Markers
import TripProposal.Proofs.Template.PlainData
import TripProposal.Proofs.Template.Segmentation

/-!
# Rendering written trees

The renderer works on text: it looks for the closer of a block and for the alternative of a
condition by scanning, and fills in the markers of a loop before it reads the body. On the written
form of a template tree, and with data without braces, it comes to what evaluating the tree comes
to.
-/

namespace TripProposal.Template

open Text

/-! ### Markers of plain entries -/

/-- Plain entries put no tags in place of their markers. -/
lemma Entry.Plain.isInertFill {entry : Entry} (h : entry.Plain) : IsInertFill entry.marker? := by
  intro content text ht
  unfold Entry.marker? at ht
  split at ht
  · exact Option.some.inj ht ▸ (isPlain_decimal _).inert
  · split at ht
    · exact Option.some.inj ht ▸ h.key.inert
    · split at ht
      · next hs => exact Option.some.inj ht ▸ (isPlain_display h.value hs.2).inert
      · cases ht

lemma isInertFill_loopMarker? {loop : Option Entry} (h : ∀ entry ∈ loop, entry.Plain) :
    IsInertFill (loopMarker? loop) := by
  cases loop with
  | none => exact isInertFill_none
  | some entry => exact (h entry rfl).isInertFill

/-- In a loop or `with` block the markers of the loop around it are left alone. -/
lemma Tree.textWith_inside {place : Place} {loop : Option Entry} {kind : BlockKind} {body : Tree}
    (hplace : place = .outside → loop = none) (hkind : kind = .forEach ∨ kind = .within)
    (hbody : body.MarkersFit (place.inside kind)) :
    body.textWith (loopMarker? loop) = body.print := by
  by_cases ho : place = .outside
  · rw [hplace ho]
    rfl
  · refine Tree.textWith_deeper loop ?_
    rcases hkind with rfl | rfl <;> simpa [Place.inside, ho] using hbody

/-! ### Blocks -/

section Blocks

variable (engine : Engine)

/-- Rendering the text of a tree with at most `depth` levels comes to evaluating the tree. -/
def Agrees (depth : Nat) (t : Tree) : Prop :=
  ∀ (place : Place) (loop : Option Entry) (scope : Scope), t.MarkersFit place →
    (place = .outside → loop = none) → scope.Plain → (∀ entry ∈ loop, entry.Plain) →
      (engine.renderAt depth scope (t.textWith (loopMarker? loop))).Shows
        (t.eval engine loop scope)

variable {engine} {depth : Nat} {place : Place} {loop : Option Entry} {scope : Scope}

/-- A block shows what the document says about its body. -/
lemma shows_block {kind : BlockKind} {expression : List CodePoint} {body : Tree}
    (ih : Agrees engine depth body) (hbody : body.MarkersFit (place.inside kind))
    (hplace : place = .outside → loop = none) (hscope : scope.Plain)
    (hloop : ∀ entry ∈ loop, entry.Plain) :
    (renderBlock (engine.renderAt depth) scope kind expression
      (body.textWith (loopMarker? loop))).Shows
        (evalBlock (body.eval engine) loop scope kind expression) := by
  -- Each kind of block enters another scope, and a loop another place of markers.
  cases kind with
  | whenSet =>
    refine Rendering.Shows.ofFound fun v _ => ?_
    rw [branch?.eq_def, elseOffset?_textWith (isInertFill_loopMarker? hloop)]
    cases isPresent v with
    | true => exact ih place loop scope hbody hplace hscope hloop
    | false => exact Rendering.shows_empty
  | whenUnset =>
    refine Rendering.Shows.ofFound fun v _ => ?_
    cases isPresent v with
    | true => exact Rendering.shows_empty
    | false => exact ih place loop scope hbody hplace hscope hloop
  | forEach =>
    refine Rendering.Shows.ofFound fun v hv => ?_
    refine Rendering.Shows.concatMap fun entry he => ?_
    have hentry : entry.Plain := by
      refine plain_of_mem_entriesOf (fun w hw => ?_) entry he
      exact hscope.resolve (hv.trans (congrArg Except.ok hw))
    -- In a loop in a loop the outer one has filled all markers that the inner one has.
    have hprint := Tree.textWith_inside hplace (.inl rfl) hbody
    rw [hprint, entry.body_print hentry.key (isPlain_decimal _)]
    refine ih _ (some entry) _ hbody (fun h => ?_) (hentry.scope hscope) fun e h => ?_
    · simp only [Place.inside] at h
      split at h <;> cases h
    · exact Option.some.inj h ▸ hentry
  | within =>
    refine Rendering.Shows.ofFound fun v hv => ?_
    cases v with
    | none => exact Rendering.shows_empty
    | some v =>
      simp only
      cases isPresent (some v) with
      | false => exact Rendering.shows_empty
      | true =>
        have hprint := Tree.textWith_inside hplace (.inr rfl) hbody
        rw [hprint]
        exact ih _ none _ hbody (fun _ => rfl) (hscope.enter (hscope.target hv))
          fun _ h => nomatch h

/-- A condition shows one of its two bodies. -/
lemma shows_choice (expression : List CodePoint) {body alternative : Tree}
    (ihBody : Agrees engine depth body) (ihAlternative : Agrees engine depth alternative)
    (hbody : body.MarkersFit place) (halternative : alternative.MarkersFit place)
    (hplace : place = .outside → loop = none) (hscope : scope.Plain)
    (hloop : ∀ entry ∈ loop, entry.Plain) :
    (renderBlock (engine.renderAt depth) scope .whenSet expression
      (body.textWith (loopMarker? loop) ++
        (elseTag ++ alternative.textWith (loopMarker? loop)))).Shows
        (evalChoice scope expression (body.eval engine loop scope)
          (alternative.eval engine loop scope)) := by
  have hfill := isInertFill_loopMarker? hloop
  refine Rendering.Shows.ofFound fun v _ => ?_
  rw [branch?.eq_def, elseOffset?_choice hfill]
  cases isPresent v with
  | true =>
    simp only [List.take_left]
    exact ihBody place loop scope hbody hplace hscope hloop
  | false =>
    simp only [← List.append_assoc, ← List.length_append, List.drop_left]
    exact ihAlternative place loop scope halternative hplace hscope hloop

end Blocks

/-! ### Trees -/

/-- Rendering the text of a tree comes to evaluating the tree. -/
lemma agrees (engine : Engine) (t : Tree) {depth : Nat} (hdepth : t.height < depth) :
    Agrees engine depth t := by
  obtain ⟨depth, rfl⟩ : ∃ n, depth = n + 1 := ⟨depth - 1, by omega⟩
  induction t generalizing depth with
  | nil =>
    intro place loop scope _ _ _ _
    rw [Tree.textWith, renderAt_nil]
    exact Rendering.shows_empty
  | text literal next ih =>
    intro place loop scope hfit hplace hscope hloop
    rw [Tree.textWith, renderAt_inert_append engine depth scope literal.inert]
    exact (Rendering.shows_ofText _).andThen (ih _ hdepth place loop scope hfit hplace hscope hloop)
  | value content next ih =>
    intro place loop scope hfit hplace hscope hloop
    have hnext := ih _ hdepth place loop scope hfit.2 hplace hscope hloop
    rw [Tree.textWith, Tree.eval, Engine.showContent]
    cases hc : loopMarker? loop content.chars with
    | none =>
      rw [Option.getD_none, renderAt_value]
      exact (Rendering.shows_ofExcept _).andThen hnext
    | some text =>
      rw [Option.getD_some,
        renderAt_inert_append engine depth scope (isInertFill_loopMarker? hloop _ _ hc)]
      exact (Rendering.shows_ofText _).andThen hnext
  | block kind expression body next ihBody ihNext =>
    intro place loop scope hfit hplace hscope hloop
    rw [Tree.height] at hdepth
    obtain ⟨depth, rfl⟩ : ∃ n, depth = n + 1 := ⟨depth - 1, by omega⟩
    rw [Tree.textWith, renderAt_block engine _ scope kind expression _ _
      (closeOffset?_textWith (isInertFill_loopMarker? hloop) body _)]
    exact (shows_block (ihBody _ (by omega)) hfit.1 hplace hscope hloop).andThen
      (ihNext _ (by omega) place loop scope hfit.2 hplace hscope hloop)
  | choice expression body alternative next ihBody ihAlternative ihNext =>
    intro place loop scope hfit hplace hscope hloop
    rw [Tree.height] at hdepth
    obtain ⟨depth, rfl⟩ : ∃ n, depth = n + 1 := ⟨depth - 1, by omega⟩
    rw [Tree.textWith, renderAt_choice engine _ scope expression _ _ _
      (closeOffset?_choice (isInertFill_loopMarker? hloop) body alternative _)]
    refine Rendering.Shows.andThen (shows_choice expression.chars (ihBody depth (by omega))
      (ihAlternative depth (by omega)) hfit.1 hfit.2.1 hplace hscope hloop) ?_
    exact ihNext (depth + 1) (by omega) place loop scope hfit.2.2 hplace hscope hloop

/-- A tree has no more levels than its text has characters. -/
lemma Tree.height_le_length (fill : List CodePoint → Option (List CodePoint)) (t : Tree) :
    t.height ≤ (t.textWith fill).length := by
  have hopener (kind : BlockKind) (expression : List CodePoint) :
      0 < (openerTag kind expression).length := by
    simp [openerTag, delimited, openMark]
  induction t with
  | nil => exact Nat.zero_le _
  | text literal next ih =>
    simp only [Tree.height, Tree.textWith, List.length_append]
    omega
  | value content next ih =>
    simp only [Tree.height, Tree.textWith, List.length_append]
    omega
  | block kind expression body next ihBody ihNext =>
    have hpos := hopener kind expression.chars
    simp only [Tree.height, Tree.textWith, List.length_append]
    omega
  | choice expression body alternative next ihBody ihAlternative ihNext =>
    have hpos := hopener .whenSet expression.chars
    simp only [Tree.height, Tree.textWith, List.length_append]
    omega

/-- Rendering the written form of a tree comes to evaluating the tree. -/
theorem render_print (engine : Engine) (t : Tree) (document : Value)
    (hmarkers : t.MarkersFit .outside) (hdocument : document.Plain) :
    (engine.render (Text.ofList t.print) document).Shows
      (t.eval engine none (.root document)) := by
  have hdepth : t.height < depthFor t.print :=
    Nat.lt_of_le_of_lt (t.height_le_length _) (Nat.lt_add_of_pos_right (by decide))
  rw [Engine.render, Text.toList_ofList]
  exact agrees engine t hdepth .outside none _ hmarkers (fun _ => rfl) (.root hdocument)
    fun _ h => nomatch h

/-- The guests of a trip with their positions, or a note that there are none. -/
def guestList : Tree :=
  .choice ⟨"guests".codePoints, by decide, by decide, by decide⟩
    (.block .forEach ⟨"guests".codePoints, by decide, by decide, by decide⟩
      (.value ⟨⟨"@index".codePoints, by decide, by decide, by decide⟩, by decide, by decide, by decide⟩
        (.text ⟨": ".codePoints, by decide⟩
          (.value
            ⟨⟨"this".codePoints, by decide, by decide, by decide⟩, by decide, by decide, by decide⟩
            (.text ⟨"; ".codePoints, by decide⟩ .nil)))) .nil)
    (.text ⟨"nobody".codePoints, by decide⟩ .nil) .nil

/-- Two guests. -/
def guestDocument : Value :=
  .object [("guests", .list [.text "Ann", .text "Bo"])]

/-- An engine on New Year's Day. -/
def guestEngine : Engine := ⟨true, .ofDate ⟨2026, 1, 1, by decide⟩⟩

/-- A loop over the guests. -/
theorem render_guestList :
    (guestEngine.render (Text.ofList guestList.print) guestDocument).Shows
      (.ok "0: Ann; 1: Bo; ".codePoints) := by
  have hmarkers : guestList.MarkersFit .outside := by
    simp [guestList, Tree.MarkersFit, Place.inside]
  have hdocument : guestDocument.Plain := by
    refine .object (fun key v h => ?_) fun key v h => ?_
    · obtain ⟨rfl, -⟩ := by simpa using h
      decide
    · obtain ⟨-, rfl⟩ := by simpa using h
      refine .list fun v hv => ?_
      obtain rfl | rfl := by simpa using hv
      · exact .text (by decide)
      · exact .text (by decide)
  exact render_print guestEngine guestList guestDocument hmarkers hdocument

end TripProposal.Template
