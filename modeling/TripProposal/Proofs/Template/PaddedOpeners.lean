import TripProposal.Proofs.Template.Composition
import TripProposal.Proofs.Template.Markers
import TripProposal.Proofs.Template.PlainData

/-!
# Rendering padded trees

Blanks behind the delimiter of an opener are trimmed away before the opener is read, so a template
renders the same without them, as long as no search that is to count the opener passes over it.
-/

namespace TripProposal.Template

open Text

/-! ### Where blanks stand -/

namespace PaddedTree

/-- Whether no opener has blanks. -/
def IsTight : PaddedTree → Prop
  | .nil => True
  | .text _ next | .value _ next => next.IsTight
  | .block padding _ _ body next => padding.chars = [] ∧ body.IsTight ∧ next.IsTight
  | .choice padding _ body alternative next =>
    padding.chars = [] ∧ body.IsTight ∧ alternative.IsTight ∧ next.IsTight

/-- Whether no opener in the body of a loop has blanks. -/
def IsTightInLoops : PaddedTree → Prop
  | .nil => True
  | .text _ next | .value _ next => next.IsTightInLoops
  | .block _ kind _ body next =>
    (kind = .forEach → body.IsTight) ∧ body.IsTightInLoops ∧ next.IsTightInLoops
  | .choice _ _ body alternative next =>
    body.IsTightInLoops ∧ alternative.IsTightInLoops ∧ next.IsTightInLoops

variable {fill : List CodePoint → Option (List CodePoint)} {t : PaddedTree}

/-- A tree whose openers are not padded has the text of the tree without padding. -/
lemma IsTight.textWith (h : t.IsTight) : t.textWith fill = t.unpadded.textWith fill := by
  induction t with
  | nil => rfl
  | text literal next ih =>
    rw [PaddedTree.textWith, ih h]
    rfl
  | value content next ih =>
    rw [PaddedTree.textWith, ih h]
    rfl
  | block padding kind expression body next ihBody ihNext =>
    rw [PaddedTree.textWith, padding.openerTag_of_nil h.1, ihBody h.2.1, ihNext h.2.2]
    rfl
  | choice padding expression body alternative next ihBody ihAlternative ihNext =>
    rw [PaddedTree.textWith, padding.openerTag_of_nil h.1, ihBody h.2.1, ihAlternative h.2.2.1,
      ihNext h.2.2.2]
    rfl

end PaddedTree

/-! ### Entries -/

lemma Entry.Plain.isInertFill_refill {entry : Entry} (h : entry.Plain)
    {fill : List CodePoint → Option (List CodePoint)} (hfill : IsInertFill fill) :
    IsInertFill (entry.refill fill) := by
  have hindex : IsInertFill (Template.refill fill "@index".codePoints (decimal entry.position)) :=
    Template.isInertFill_refill hfill (isPlain_decimal _).inert
  have hplaced : IsInertFill (Template.refill _ "@key".codePoints entry.key) :=
    Template.isInertFill_refill hindex h.key.inert
  unfold Entry.refill
  dsimp only
  split
  · exact hplaced
  · next hs =>
    exact Template.isInertFill_refill hplaced (isPlain_display h.value (by simpa using hs)).inert

/-! ### Rendering -/

section Rendering

variable (engine : Engine)

/-- On one level, the texts of a tree with and without the blanks in its openers render the same. -/
def RendersUnpadded (depth : Nat) (t : PaddedTree) : Prop :=
  ∀ (counted : List BlockKind) (fill : List CodePoint → Option (List CodePoint)) (scope : Scope),
    t.Fits counted → IsInertFill fill → scope.Plain ∨ t.IsTightInLoops →
      engine.renderAt depth scope (t.textWith fill) =
        engine.renderAt depth scope (t.unpadded.textWith fill)

variable {engine} {depth : Nat} {counted : List BlockKind}
  {fill : List CodePoint → Option (List CodePoint)}
  {scope : Scope}

/-- Padding in front of the opener of a block makes no difference. -/
lemma renderBlock_unpadded {kind : BlockKind} {expression : List CodePoint} {body : PaddedTree}
    (ih : RendersUnpadded engine depth body) (hfits : body.Fits (kind.counted ++ counted))
    (hfill : IsInertFill fill)
    (hdata : scope.Plain ∨ (kind = .forEach → body.IsTight) ∧ body.IsTightInLoops) :
    renderBlock (engine.renderAt depth) scope kind expression (body.textWith fill) =
      renderBlock (engine.renderAt depth) scope kind expression (body.unpadded.textWith fill) := by
  have hbody := ih _ fill scope hfits hfill (hdata.imp_right And.right)
  cases kind with
  | whenSet =>
    have helse := PaddedTree.elseOffset?_textWith hfill (List.subset_append_left _ _) hfits
    have helse' := elseOffset?_textWith hfill body.unpadded
    refine Rendering.ofFound_congr fun v _ => ?_
    rw [branch?.eq_def, branch?.eq_def, helse, helse']
    cases isPresent v with
    | true => exact hbody
    | false => rfl
  | whenUnset => simp only [renderBlock, hbody]
  | forEach =>
    refine Rendering.ofFound_congr fun v hv => ?_
    -- Markers in padded openers are filled like those in other tags only for plain data.
    rcases hdata with hplain | htight
    · refine Rendering.concatMap_congr fun entry he => ?_
      have hloop : ∀ w, v = some w → w.Plain := fun w hw =>
        hplain.resolve (hv.trans (congrArg Except.ok hw))
      have hentry : entry.Plain := plain_of_mem_entriesOf hloop entry he
      have hindex := (isPlain_decimal entry.position).inert
      rw [Entry.body_paddedText hentry.key.inert hindex hfill,
        Entry.body_textWith hentry.key.inert hindex hfill]
      exact ih _ _ _ hfits (hentry.isInertFill_refill hfill) (.inl (hentry.scope hplain))
    · rw [(htight.1 rfl).textWith]
  | within =>
    refine Rendering.ofFound_congr fun v hv => ?_
    cases v with
    | none => rfl
    | some value =>
      have hinside := ih _ fill (scope.enter value) hfits hfill
        (hdata.imp (fun hplain => hplain.enter (hplain.target hv)) And.right)
      simp only [hinside]

/-- Nor does it in front of the opener of a condition with an alternative. -/
lemma renderChoice_unpadded {expression : List CodePoint} {body alternative : PaddedTree}
    (ihBody : RendersUnpadded engine depth body)
    (ihAlternative : RendersUnpadded engine depth alternative)
    (hfits : body.Fits (BlockKind.whenSet.counted ++ counted))
    (hfits' : alternative.Fits (.whenSet :: counted)) (hfill : IsInertFill fill)
    (hdata : scope.Plain ∨ body.IsTightInLoops ∧ alternative.IsTightInLoops) :
    renderBlock (engine.renderAt depth) scope .whenSet expression
        (body.textWith fill ++ (elseTag ++ alternative.textWith fill)) =
      renderBlock (engine.renderAt depth) scope .whenSet expression
        (body.unpadded.textWith fill ++ (elseTag ++ alternative.unpadded.textWith fill)) := by
  have helse := PaddedTree.elseOffset?_choice hfill (List.subset_append_left _ _) hfits
    (alternative.textWith fill)
  have helse' := elseOffset?_choice hfill body.unpadded (alternative.unpadded.textWith fill)
  refine Rendering.ofFound_congr fun v _ => ?_
  rw [branch?.eq_def, branch?.eq_def, helse, helse']
  cases isPresent v with
  | true =>
    simp only [List.take_left]
    exact ihBody _ fill scope hfits hfill (hdata.imp_right And.left)
  | false =>
    simp only [← List.append_assoc, ← List.length_append, List.drop_left]
    exact ihAlternative _ fill scope hfits' hfill (hdata.imp_right And.right)

end Rendering

/-- The texts of a tree with and without the blanks in its openers render the same. -/
lemma rendersUnpadded (engine : Engine) (depth : Nat) (t : PaddedTree) :
    RendersUnpadded engine depth t := by
  -- On the depth, for the bodies, and inside on the tree, for what follows a tag.
  induction depth generalizing t with
  | zero => exact fun _ _ _ _ _ _ => rfl
  | succ depth ihDepth =>
    induction t with
    | nil => exact fun _ _ _ _ _ _ => rfl
    | text literal next ih =>
      intro counted fill scope hfits hfill hdata
      rw [PaddedTree.textWith, PaddedTree.unpadded, Tree.textWith,
        renderAt_inert_append engine depth scope literal.inert,
        renderAt_inert_append engine depth scope literal.inert,
        ih counted fill scope hfits hfill hdata]
    | value content next ih =>
      intro counted fill scope hfits hfill hdata
      have hnext := ih counted fill scope hfits hfill hdata
      rw [PaddedTree.textWith, PaddedTree.unpadded, Tree.textWith]
      cases hc : fill content.chars with
      | none => rw [Option.getD_none, renderAt_value, renderAt_value, hnext]
      | some text =>
        rw [Option.getD_some, renderAt_inert_append engine depth scope (hfill _ _ hc),
          renderAt_inert_append engine depth scope (hfill _ _ hc), hnext]
    | block padding kind expression body next ihBody ihNext =>
      intro counted fill scope hfits hfill hdata
      obtain ⟨-, hbody, hnext⟩ := hfits
      have hkind := List.mem_append_left counted kind.mem_counted
      rw [PaddedTree.textWith, PaddedTree.unpadded, Tree.textWith,
        renderAt_paddedBlock engine depth scope padding kind expression _ _
          (PaddedTree.closeOffset?_textWith hfill hkind hbody _),
        renderAt_block engine depth scope kind expression _ _
          (closeOffset?_textWith hfill body.unpadded _),
        renderBlock_unpadded (ihDepth body) hbody hfill (hdata.imp_right fun h => ⟨h.1, h.2.1⟩),
        ihNext counted fill scope hnext hfill (hdata.imp_right fun h => h.2.2)]
    | choice padding expression body alternative next ihBody ihAlternative ihNext =>
      intro counted fill scope hfits hfill hdata
      obtain ⟨-, hbody, halternative, hnext⟩ := hfits
      rw [PaddedTree.textWith, PaddedTree.unpadded, Tree.textWith,
        renderAt_paddedChoice engine depth scope padding expression _ _ _
          (PaddedTree.closeOffset?_choice hfill List.mem_cons_self List.mem_cons_self hbody
            halternative _),
        renderAt_choice engine depth scope expression _ _ _
          (closeOffset?_choice hfill body.unpadded alternative.unpadded _),
        renderChoice_unpadded (ihDepth body) (ihDepth alternative) hbody halternative hfill
          (hdata.imp_right fun h => ⟨h.1, h.2.1⟩),
        ihNext counted fill scope hnext hfill (hdata.imp_right fun h => h.2.2)]

/-- Padding only makes a text longer. -/
lemma PaddedTree.length_unpadded_le (t : PaddedTree) :
    t.unpadded.print.length ≤ t.print.length := by
  have hopener (padding : Padding) (kind : BlockKind) (expression : List CodePoint) :
      (openerTag kind expression).length ≤ (padding.openerTag kind expression).length := by
    simp [openerTag, Padding.openerTag, delimited]
  unfold PaddedTree.print Tree.print
  induction t with
  | nil => exact Nat.le_refl _
  | text literal next ih =>
    simp only [PaddedTree.textWith, PaddedTree.unpadded, Tree.textWith, List.length_append]
    omega
  | value content next ih =>
    simp only [PaddedTree.textWith, PaddedTree.unpadded, Tree.textWith, List.length_append]
    omega
  | block padding kind expression body next ihBody ihNext =>
    have h := hopener padding kind expression.chars
    simp only [PaddedTree.textWith, PaddedTree.unpadded, Tree.textWith, List.length_append]
    omega
  | choice padding expression body alternative next ihBody ihAlternative ihNext =>
    have h := hopener padding .whenSet expression.chars
    simp only [PaddedTree.textWith, PaddedTree.unpadded, Tree.textWith, List.length_append]
    omega

/-- Where no search passes that is to count an opener with blanks, a template renders the same
without the blanks, whatever number of levels may open. For openers in loops that takes a document
without braces, because a loop reads what it writes into its body as a template. -/
theorem render_padded (engine : Engine) {t : PaddedTree} {document : Value} (hfits : t.Fits [])
    (hdata : document.Plain ∨ t.IsTightInLoops) :
    (∀ depth, engine.renderAt depth (.root document) t.print =
      engine.renderAt depth (.root document) t.unpadded.print) ∧
    ((engine.render (Text.ofList t.unpadded.print) document).Ends →
      engine.render (Text.ofList t.print) document =
        engine.render (Text.ofList t.unpadded.print) document) := by
  have hlevels : ∀ depth, engine.renderAt depth (.root document) t.print =
      engine.renderAt depth (.root document) t.unpadded.print := fun depth =>
    rendersUnpadded engine depth t [] _ _ hfits isInertFill_none (hdata.imp_left .root)
  have hdepth : depthFor t.unpadded.print ≤ depthFor t.print :=
    Nat.add_le_add_right t.length_unpadded_le 10000
  refine ⟨hlevels, fun hends => ?_⟩
  simp only [Engine.render] at hends ⊢
  rw [hlevels]
  exact renderAt_of_le hdepth hends

/-- One blank. -/
def oneBlank : Padding := ⟨[' '], List.forall_mem_singleton.mpr rfl⟩

/-- The ports of a trip, with a blank in every opener. -/
def paddedPorts : PaddedTree :=
  .block oneBlank .forEach ⟨"days".codePoints, by decide, by decide, by decide⟩
    (.choice oneBlank ⟨"port".codePoints, by decide, by decide, by decide⟩
      (.block oneBlank .within ⟨"port".codePoints, by decide, by decide, by decide⟩
        (.value ⟨⟨"name".codePoints, by decide, by decide, by decide⟩, by decide, by decide, by decide⟩
          .nil) .nil)
      (.text ⟨"at sea".codePoints, by decide⟩ .nil)
      (.text ⟨", ".codePoints, by decide⟩ .nil)) .nil

/-- A day in a port and a day at sea. -/
def portDocument : Value :=
  .object [("days", .list [.object [("port", .object [("name", .text "Bergen")])], .object []])]

lemma plain_portDocument : portDocument.Plain := by
  have hport : (Value.object [("name", .text "Bergen")]).Plain := by
    refine .object (fun key v h => ?_) fun key v h => ?_ <;> cases List.mem_singleton.mp h
    · decide
    · exact .text (by decide)
  have hday : (Value.object [("port", .object [("name", .text "Bergen")])]).Plain := by
    refine .object (fun key v h => ?_) fun key v h => ?_ <;> cases List.mem_singleton.mp h
    · decide
    · exact hport
  refine .object (fun key v h => ?_) fun key v h => ?_ <;> cases List.mem_singleton.mp h
  · decide
  · refine .list fun v hv => ?_
    obtain rfl | rfl := by simpa using hv
    · exact hday
    · exact .object nofun nofun

theorem render_paddedPorts :
    let engine : Engine := ⟨true, .ofDate ⟨2026, 1, 1, by decide⟩⟩
    paddedPorts.Fits [] ∧ portDocument.Plain ∧
      (engine.render (Text.ofList paddedPorts.print) portDocument).outcome =
        .ok "Bergen, at sea, ".codePoints := by
  intro engine
  have hfits : paddedPorts.Fits [] := by
    simp [paddedPorts, PaddedTree.Fits, BlockKind.counted]
  have hshown : (engine.render (Text.ofList paddedPorts.unpadded.print) portDocument).outcome =
      .ok "Bergen, at sea, ".codePoints := by decide +kernel
  have hends := Rendering.ends_of_fault?_eq_none (Rendering.outcome_eq_ok.mp hshown).1
  refine ⟨hfits, plain_portDocument, ?_⟩
  rw [(render_padded engine hfits (.inl plain_portDocument)).2 hends, hshown]

/-- A condition in a condition, with a blank in its opener. -/
def paddedInner : PaddedTree :=
  .block .none .whenSet ⟨"a".codePoints, by decide, by decide, by decide⟩
    (.block oneBlank .whenSet ⟨"b".codePoints, by decide, by decide, by decide⟩
      (.text ⟨"x".codePoints, by decide⟩ .nil) .nil) .nil

/-- A condition ends at the closer of a condition with blanks in its opener, and its own closer is
shown. -/
theorem render_paddedInner :
    let engine : Engine := ⟨true, .ofDate ⟨2026, 1, 1, by decide⟩⟩
    (engine.render (Text.ofList paddedInner.print) (.object [])).outcome =
        .ok BlockKind.whenSet.closer ∧
      (engine.render (Text.ofList paddedInner.unpadded.print) (.object [])).outcome = .ok [] := by
  decide +kernel

end TripProposal.Template
