import TripProposal.Proofs.Template.Delimiters

/-!
# Blanks in openers

The content of a tag is trimmed before it is read, so an opener may have blanks behind its
delimiter. The searches that run through the body of a block know openers only as they are written
without blanks, and `PaddedTree.Fits` says that none of them is to count an opener with blanks.
-/

namespace TripProposal.Template

open Text

variable {kind kind' : BlockKind} {content : List CodePoint}

/-- Blanks behind the delimiter of an opener. -/
structure Padding where
  chars : List CodePoint
  blank : ∀ c ∈ chars, isBlank c

/-- No blanks. -/
def Padding.none : Padding := ⟨[], nofun⟩

/-- The tag that opens a block, with blanks behind its delimiter. -/
def Padding.openerTag (padding : Padding) (kind : BlockKind) (expression : List CodePoint) :
    List CodePoint :=
  delimited (padding.chars ++ (Tag.block kind expression).print)

/-- A well-formed template with blanks in its openers. -/
inductive PaddedTree
  | nil
  | text (literal : Literal) (next : PaddedTree)
  | value (content : ValueContent) (next : PaddedTree)
  | block (padding : Padding) (kind : BlockKind) (expression : Content) (body next : PaddedTree)
  | choice (padding : Padding) (expression : Content) (body alternative next : PaddedTree)

namespace PaddedTree

/-- The text of a tree, value tags whose content is in the domain of `fill` being filled in. -/
def textWith (fill : List CodePoint → Option (List CodePoint)) : PaddedTree → List CodePoint
  | nil => []
  | text literal next => literal.chars ++ next.textWith fill
  | value content next =>
    (fill content.chars).getD (delimited content.chars) ++ next.textWith fill
  | block padding kind expression body next =>
    padding.openerTag kind expression.chars ++
      (body.textWith fill ++ (kind.closer ++ next.textWith fill))
  | choice padding expression body alternative next =>
    padding.openerTag .whenSet expression.chars ++ (body.textWith fill ++ (elseTag ++
      (alternative.textWith fill ++ (BlockKind.whenSet.closer ++ next.textWith fill))))

/-- The written form of a tree. -/
def print (t : PaddedTree) : List CodePoint :=
  t.textWith fun _ => none

/-- The tree without the blanks in its openers. -/
def unpadded : PaddedTree → Tree
  | nil => .nil
  | text literal next => .text literal next.unpadded
  | value content next => .value content next.unpadded
  | block _ kind expression body next => .block kind expression body.unpadded next.unpadded
  | choice _ expression body alternative next =>
    .choice expression body.unpadded alternative.unpadded next.unpadded

end PaddedTree

/-- The kinds whose openers are counted by the searches through the body of a block: those of its
own kind for its closer, conditions and loops for the alternative of a condition. -/
def BlockKind.counted : BlockKind → List BlockKind
  | .whenSet => [.whenSet, .forEach]
  | kind => [kind]

lemma BlockKind.mem_counted (kind : BlockKind) : kind ∈ kind.counted := by
  cases kind <;> decide

/-- Whether openers with blanks stand only where no search passes that counts their kind, the
searches that pass through the whole tree counting the given kinds. -/
def PaddedTree.Fits : List BlockKind → PaddedTree → Prop
  | _, .nil => True
  | counted, .text _ next | counted, .value _ next => next.Fits counted
  | counted, .block padding kind _ body next =>
    (padding.chars = [] ∨ kind ∉ counted) ∧ body.Fits (kind.counted ++ counted) ∧
      next.Fits counted
  -- The search for an alternative ends at the alternative, the search for the closer does not.
  | counted, .choice padding _ body alternative next =>
    (padding.chars = [] ∨ .whenSet ∉ counted) ∧ body.Fits (BlockKind.whenSet.counted ++ counted) ∧
      alternative.Fits (.whenSet :: counted) ∧ next.Fits counted

/-- A tree without blanks in its openers, as a padded tree. -/
def Tree.padded : Tree → PaddedTree
  | .nil => .nil
  | .text literal next => .text literal next.padded
  | .value content next => .value content next.padded
  | .block kind expression body next => .block .none kind expression body.padded next.padded
  | .choice expression body alternative next =>
    .choice .none expression body.padded alternative.padded next.padded

/-- A tree without padding has the same text. -/
lemma Tree.textWith_padded (fill : List CodePoint → Option (List CodePoint)) (t : Tree) :
    t.padded.textWith fill = t.textWith fill := by
  induction t with
  | nil => rfl
  | text literal next ih => simp only [Tree.padded, PaddedTree.textWith, Tree.textWith, ih]
  | value content next ih => simp only [Tree.padded, PaddedTree.textWith, Tree.textWith, ih]
  | block kind expression body next ihBody ihNext =>
    simp only [Tree.padded, PaddedTree.textWith, Tree.textWith, ihBody, ihNext]
    rfl
  | choice expression body alternative next ihBody ihAlternative ihNext =>
    simp only [Tree.padded, PaddedTree.textWith, Tree.textWith, ihBody, ihAlternative, ihNext]
    rfl

lemma Tree.fits_padded (counted : List BlockKind) (t : Tree) : t.padded.Fits counted := by
  induction t generalizing counted with
  | nil => trivial
  | text literal next ih => exact ih counted
  | value content next ih => exact ih counted
  | block kind expression body next ihBody ihNext => exact ⟨.inl rfl, ihBody _, ihNext _⟩
  | choice expression body alternative next ihBody ihAlternative ihNext =>
    exact ⟨.inl rfl, ihBody _, ihAlternative _, ihNext _⟩

/-! ### Openers with blanks -/

namespace Padding

variable (padding : Padding)

lemma openerTag_of_nil (h : padding.chars = []) (kind : BlockKind) (expression : List CodePoint) :
    padding.openerTag kind expression = Template.openerTag kind expression := by
  rw [Padding.openerTag, h]
  rfl

/-- Padding is trimmed away. -/
lemma trim_append (content : List CodePoint) : trim (padding.chars ++ content) = trim content := by
  have hdrop : (padding.chars ++ content).dropWhile isBlank = content.dropWhile isBlank :=
    List.dropWhile_append_of_pos padding.blank
  rw [trim, hdrop, trim]

lemma isPlain_chars : IsPlain padding.chars :=
  ⟨fun h => absurd (padding.blank _ h) (by decide), fun h => absurd (padding.blank _ h) (by decide)⟩

lemma isPlain_append (h : IsPlain content) : IsPlain (padding.chars ++ content) := by
  have hchars := padding.isPlain_chars
  simp only [IsPlain, List.mem_append, not_or]
  exact ⟨⟨hchars.1, h.1⟩, hchars.2, h.2⟩

/-- With blanks behind its delimiter an opener does not look like one. -/
lemma isNeutral_append (h : padding.chars ≠ []) (content : List CodePoint) :
    IsNeutral (padding.chars ++ content) := by
  obtain ⟨c, chars, hchars⟩ := List.exists_cons_of_ne_nil h
  have hc : isBlank c := padding.blank c (by simp [hchars])
  rw [hchars, List.cons_append]
  refine ⟨List.cons_ne_nil _ _, ?_, ?_⟩ <;>
    exact fun h => absurd (Option.some.inj h ▸ hc) (by decide)

end Padding

end TripProposal.Template
