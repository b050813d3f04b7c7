import Mathlib.Tactic.Common
import TripProposal.Proofs.Template.TagGrammar

/-!
# Printing and reading tags

`Tag.print` writes a tag with one blank for each gap. Reading what is printed gives the tag back
when its parts fit its form, and the parts of every tag that is read from a trimmed content do.
-/

namespace TripProposal.Template

open Text

variable {tag : Tag} {name : Text} {content path quoted : List CodePoint}

/-- Whether a text can stand behind a word of the language. -/
structure IsArgument (text : List CodePoint) : Prop where
  ne_nil : text ≠ []
  trimmed : trim text = text

instance : DecidablePred IsArgument := fun text =>
  decidable_of_iff (text ≠ [] ∧ trim text = text) ⟨fun h => ⟨h.1, h.2⟩, fun h => ⟨h.1, h.2⟩⟩

/-- Whether the parts of a tag fit its form. A value tag has no form of its own. -/
def Tag.IsWellFormed : Tag → Prop
  | .block _ expression => IsArgument expression
  | .close name => trim name = name
  | .otherwise | .timestamp => True
  | .helper _ path => IsArgument path
  | .pluralize path singular plural? =>
    IsUnbroken path ∧ IsQuotable singular ∧ ∀ plural ∈ plural?, IsQuotable plural
  | .fallback path text => IsUnbroken path ∧ IsQuotable text
  | .variable _ => False

instance : DecidablePred Tag.IsWellFormed
  | .block _ expression => inferInstanceAs (Decidable (IsArgument expression))
  | .close name => inferInstanceAs (Decidable (trim name = name))
  | .otherwise => inferInstanceAs (Decidable True)
  | .timestamp => inferInstanceAs (Decidable True)
  | .helper _ path => inferInstanceAs (Decidable (IsArgument path))
  | .pluralize path singular plural? =>
    inferInstanceAs (Decidable
      (IsUnbroken path ∧ IsQuotable singular ∧ ∀ plural ∈ plural?, IsQuotable plural))
  | .fallback path text => inferInstanceAs (Decidable (IsUnbroken path ∧ IsQuotable text))
  | .variable _ => inferInstanceAs (Decidable False)

/-! ### The printed form is a spelling -/

lemma isGap_blank : IsGap [' '] := ⟨by simp, List.forall_mem_singleton.mpr (by decide)⟩

/-- A printed call is one of the grammar. -/
lemma isCall_print (name : Text) (hpath : IsUnbroken path) (hquoted : IsQuotable quoted) :
    IsCall name path quoted (name.toList ++ .char ' ' :: (path ++ .char ' ' :: Tag.quote quoted)) :=
  .intro isGap_blank hpath isGap_blank hquoted

lemma print_fallback (path text : List CodePoint) :
    (Tag.fallback path text).print =
      "default".codePoints ++ .char ' ' :: (path ++ .char ' ' :: Tag.quote text) := by
  change "default ".codePoints ++ path ++ .char ' ' :: Tag.quote text = _
  simp

lemma print_singular (path singular : List CodePoint) :
    (Tag.pluralize path singular none).print =
      "pluralize".codePoints ++ .char ' ' :: (path ++ .char ' ' :: Tag.quote singular) := by
  change "pluralize ".codePoints ++ path ++ .char ' ' :: Tag.quote singular ++ [] = _
  simp

lemma print_plural (path singular plural : List CodePoint) :
    (Tag.pluralize path singular (some plural)).print =
      (Tag.pluralize path singular none).print ++ ([.char ' '] ++ Tag.quote plural) := by
  change "pluralize ".codePoints ++ path ++ .char ' ' :: Tag.quote singular ++
      .char ' ' :: Tag.quote plural =
    "pluralize ".codePoints ++ path ++ .char ' ' :: Tag.quote singular ++ [] ++
      .char ' ' :: Tag.quote plural
  rw [List.append_nil]

/-- A tag whose parts fit is spelled by its printed form. -/
lemma Tag.IsWellFormed.spelledBy_print (h : tag.IsWellFormed) : tag.SpelledBy tag.print := by
  cases tag with
  | block kind expression =>
    have hspelled := SpelledBy.block kind expression
    rwa [IsArgument.trimmed h] at hspelled
  | close name =>
    have hspelled := SpelledBy.close name
    rwa [show trim name = name from h] at hspelled
  | otherwise => exact .otherwise
  | timestamp => exact .timestamp
  | helper helper path =>
    have hne : trim path ≠ [] := (IsArgument.trimmed h).symm ▸ IsArgument.ne_nil h
    have hspelled := SpelledBy.helper helper hne
    rwa [IsArgument.trimmed h] at hspelled
  | pluralize path singular plural? =>
    obtain ⟨hpath, hsingular, hplural⟩ := h
    have hcall := isCall_print "pluralize" hpath hsingular
    rw [Text.toList_ofString, ← print_singular] at hcall
    cases plural? with
    | none =>
      have hspelled := SpelledBy.singular hcall (show atEnd [] from rfl)
      rwa [List.append_nil] at hspelled
    | some plural =>
      have hspelled :=
        SpelledBy.plural hcall isGap_blank (hplural plural rfl) (show atEnd [] from rfl)
      rwa [List.append_nil, ← print_plural] at hspelled
  | fallback path text =>
    obtain ⟨hpath, htext⟩ := h
    have hcall := isCall_print "default" hpath htext
    have hspelled := SpelledBy.fallback hcall (show atEnd [] from rfl)
    rwa [List.append_nil, Text.toList_ofString, ← print_fallback] at hspelled
  | _ => exact h.elim

/-! ### The parts of a tag that is read -/

/-- The parts of a call in which nothing but its gaps is left are in their normal form. -/
lemma IsCall.parts (h : IsCall name path quoted content) : IsUnbroken path ∧ IsQuotable quoted := by
  cases h with
  | intro hbefore hpath hbehind hquoted => exact ⟨hpath, hquoted⟩

/-- Behind the word of an opener that ends in no blank there is an expression. -/
lemma trim_ne_nil_of_opener {kind : BlockKind} {rest : List CodePoint}
    (h : trim (.char '#' :: kind.word.toList ++ .char ' ' :: rest) =
      .char '#' :: kind.word.toList ++ .char ' ' :: rest) :
    trim rest ≠ [] := by
  intro hnil
  have hblank : ∀ c ∈ .char ' ' :: rest, isBlank c = true :=
    List.forall_mem_cons.mpr ⟨by decide, trim_eq_nil_iff.mp hnil⟩
  have hlast : (.char ' ' :: rest).getLast (by simp) ∈
      (.char '#' :: kind.word.toList ++ .char ' ' :: rest).getLast? := by
    rw [List.getLast?_append_of_ne_nil _ (by simp)]
    exact List.getLast_mem_getLast? _
  have hsolid := getLast?_of_trim_eq_self h _ hlast
  rw [hblank _ (List.getLast_mem _)] at hsolid
  cases hsolid

/-- The parts of a tag fit when a trimmed content spells it. -/
lemma Tag.SpelledBy.isWellFormed (h : tag.SpelledBy content) (htrim : trim content = content) :
    tag.IsWellFormed := by
  cases h with
  | block kind rest => exact ⟨trim_ne_nil_of_opener htrim, trim_trim rest⟩
  | close name => exact trim_trim name
  | otherwise => trivial
  | timestamp => trivial
  | helper h hrest => exact ⟨hrest, trim_trim _⟩
  | singular hcall hrest => exact ⟨hcall.parts.1, hcall.parts.2, nofun⟩
  | plural hcall hgap hplural hrest =>
    refine ⟨hcall.parts.1, hcall.parts.2, ?_⟩
    rintro _ ⟨⟩
    exact hplural
  | fallback hcall hrest => exact hcall.parts

/-! ### Round trips -/

/-- Reading a printed tag gives its kind, its expression and its arguments back when they fit its
form. They do for every tag but a value tag that is read from a trimmed content, so printing it and
reading it again changes nothing. -/
theorem parse_undoes_print :
    (∀ tag : Tag, tag.IsWellFormed → Tag.parse tag.print = tag) ∧
      ∀ content : List CodePoint, trim content = content →
        (∀ path, Tag.parse content ≠ .variable path) →
          (Tag.parse content).IsWellFormed ∧
            Tag.parse (Tag.parse content).print = Tag.parse content := by
  have hprint (tag : Tag) (h : tag.IsWellFormed) : Tag.parse tag.print = tag :=
    h.spelledBy_print.parse_eq
  refine ⟨hprint, fun content htrim hvalue => ?_⟩
  have hspelled : (Tag.parse content).SpelledBy content := (Tag.parse_eq_iff hvalue).mp rfl
  have hwell := hspelled.isWellFormed htrim
  exact ⟨hwell, hprint _ hwell⟩

/-- A count in both of its forms. -/
def guestCount : Tag :=
  .pluralize "travelers.count".codePoints "Guest".codePoints (some "Guests".codePoints)

/-- A fallback with gaps that are wider than the printed ones. -/
def wideFallback : List CodePoint := "default  airline \t \"To be \u00a0confirmed\"".codePoints

theorem parse_undoes_print_guestCount :
    (guestCount.IsWellFormed ∧ Tag.parse guestCount.print = guestCount) ∧
      trim wideFallback = wideFallback ∧ (∀ path, Tag.parse wideFallback ≠ .variable path) ∧
        (Tag.parse wideFallback).IsWellFormed ∧
          Tag.parse (Tag.parse wideFallback).print = Tag.parse wideFallback := by
  have hguests : guestCount.IsWellFormed := by decide
  have htrim : trim wideFallback = wideFallback := by decide
  have hparse : Tag.parse wideFallback =
      .fallback "airline".codePoints "To be \u00a0confirmed".codePoints := by decide
  have hvalue (path : List CodePoint) : Tag.parse wideFallback ≠ .variable path := by
    rw [hparse]
    nofun
  exact ⟨⟨hguests, parse_undoes_print.1 guestCount hguests⟩, htrim, hvalue,
    parse_undoes_print.2 wideFallback htrim hvalue⟩

/-- Without a path the quoted singular is read in its place and the plural as the singular, and the
name of a closer is read without the blanks around it. -/
theorem parse_print_pathless :
    ((∀ c ∈ ([] : List CodePoint), isBlank c = false) ∧ IsQuotable "night".codePoints ∧
        IsQuotable "nights".codePoints ∧
        Tag.parse (Tag.pluralize [] "night".codePoints (some "nights".codePoints)).print =
          .pluralize "\"night\"".codePoints "nights".codePoints none ∧
        Tag.parse (Tag.pluralize [] "night".codePoints (some "nights".codePoints)).print ≠
          .pluralize [] "night".codePoints (some "nights".codePoints)) ∧
      Tag.parse (Tag.close " if".codePoints).print ≠ .close " if".codePoints := by
  have hpathless : Tag.parse (Tag.pluralize [] "night".codePoints (some "nights".codePoints)).print =
      .pluralize "\"night\"".codePoints "nights".codePoints none := by decide
  refine ⟨⟨nofun, by decide, by decide, hpathless, ?_⟩, by decide⟩
  rw [hpathless]
  decide

end TripProposal.Template
