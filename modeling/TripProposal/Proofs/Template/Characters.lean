import Mathlib.Data.List.Basic
import Mathlib.Tactic.Common
import TripProposal.Proofs.Number.Characters
import TripProposal.Proofs.Template.Lookup
import TripProposal.Proofs.Template.TagGrammar
import TripProposal.Proofs.Text.Searching
import TripProposal.Template.Render

/-!
# Where the characters of a template come from

Cutting a template into segments and tags into paths leaves characters out and adds none. A loop
adds what it writes into its body: the keys and texts of its entries, and the characters that
numbers and words are written with.
-/

namespace TripProposal.Template

open Text Number

variable {text rest content : List CodePoint} {c : CodePoint}

/-! ### Words and gaps -/

/-- What remains behind a pattern has no other characters. -/
lemma subset_of_isPrefixOf? {pattern : List CodePoint} (h : pattern.isPrefixOf? text = some rest) :
    rest ⊆ text := by
  rw [isPrefixOf?_eq_some_append h]
  exact List.subset_append_right _ _

lemma subset_of_takeGap? (h : takeGap? text = some rest) : rest ⊆ text := by
  unfold takeGap? at h
  split at h
  · split at h
    · cases h
      exact ((List.dropWhile_sublist isBlank).trans (List.sublist_cons_self _ _)).subset
    · cases h
  · cases h

lemma takeWord_fst_subset (text : List CodePoint) : (takeWord text).1 ⊆ text :=
  (List.takeWhile_sublist _).subset

lemma takeWord_snd_subset (text : List CodePoint) : (takeWord text).2 ⊆ text :=
  (List.dropWhile_sublist _).subset

/-- What follows a name and a gap. -/
lemma subset_of_takeNameAndGap? {name : List CodePoint}
    (h : (name.isPrefixOf? text).bind takeGap? = some rest) : rest ⊆ text := by
  obtain ⟨after, hprefix, hgap⟩ := Option.bind_eq_some_iff.mp h
  exact List.Subset.trans (subset_of_takeGap? hgap) (subset_of_isPrefixOf? hprefix)

/-- The pieces between marks are taken from the text. -/
lemma subset_of_mem_splitAtMark {mark : CodePoint} {piece : List CodePoint}
    (h : piece ∈ splitAtMark mark text) : piece ⊆ text := by
  induction text generalizing piece with
  | nil =>
    obtain rfl := List.mem_singleton.mp h
    exact List.nil_subset _
  | cons c text ih =>
    rw [splitAtMark] at h
    split at h
    · rcases List.mem_cons.mp h with rfl | h
      · exact List.nil_subset _
      · exact List.subset_cons_of_subset c (ih h)
    · split at h
      · next first pieces hsplit =>
        rcases List.mem_cons.mp h with rfl | h
        · exact List.cons_subset_cons c (ih (hsplit ▸ List.mem_cons_self))
        · exact List.subset_cons_of_subset c (ih (hsplit ▸ List.mem_cons_of_mem _ h))
      · obtain rfl := List.mem_singleton.mp h
        exact List.cons_subset_cons c (List.nil_subset _)

/-! ### Tags -/

/-- The path of a call is part of its text. -/
lemma IsCall.path_subset {name : Text} {path quoted call : List CodePoint}
    (h : IsCall name path quoted call) : path ⊆ call := by
  cases h
  intro c hc
  simp [hc]

/-- So is the expression of a tag. -/
lemma Tag.SpelledBy.expression_subset {tag : Tag} (h : tag.SpelledBy content) :
    tag.expression ⊆ content := by
  have hbehind (word rest : List CodePoint) : trim rest ⊆ word ++ .char ' ' :: rest := fun c hc =>
    List.mem_append_right word (List.mem_cons_of_mem _ (trim_subset rest hc))
  cases h with
  | block kind rest => exact hbehind _ rest
  | close name => exact List.subset_cons_of_subset _ (trim_subset name)
  | otherwise => exact List.nil_subset _
  | timestamp => exact List.nil_subset _
  | helper h hrest => exact hbehind _ _
  | singular hcall hrest => exact List.subset_append_of_subset_left _ hcall.path_subset
  | plural hcall _ _ _ => exact List.subset_append_of_subset_left _ hcall.path_subset
  | fallback hcall hrest => exact List.subset_append_of_subset_left _ hcall.path_subset

/-- The path or expression of a tag is taken from its content. -/
lemma expression_parse_subset (content : List CodePoint) :
    (Tag.parse content).expression ⊆ content := by
  rcases spelledBy_parse content with h | h
  · exact h.expression_subset
  · rw [h]
    exact List.Subset.refl _

/-- Both paths of a `lookup` are taken from its expression. -/
lemma paths_subset_of_parseLookup? {expression object key : List CodePoint}
    (h : parseLookup? expression = some (object, key)) : object ⊆ expression ∧
      key ⊆ expression := by
  unfold parseLookup? at h
  split at h
  · cases h
  · next after hname =>
    have hafter := subset_of_takeNameAndGap? hname
    split at h
    · cases h
    · next object' rest _ hword =>
      have hobject := takeWord_fst_subset after
      have hrest := takeWord_snd_subset after
      rw [hword] at hobject hrest
      have hkey : trim ((rest.dropWhile isBlank).takeWhile (· ≠ ')')) ⊆ rest :=
        List.Subset.trans (trim_subset _)
          ((List.takeWhile_sublist _).trans (List.dropWhile_sublist _)).subset
      simp only at h
      split at h
      · split at h
        · cases h
          exact ⟨fun c hc => hafter (hobject hc), fun c hc => hafter (hrest (hkey hc))⟩
        · cases h
      · cases h

/-! ### Segments -/

/-- Whether what a segment reads, a path or a body, is taken from a text. -/
def Segment.Within (text : List CodePoint) : Segment → Prop
  | .value tag => tag.expression ⊆ text
  | .block _ expression body => expression ⊆ text ∧ body ⊆ text
  | _ => True

/-- A segment of a part is one of the whole. -/
lemma Segment.Within.mono {segment : Segment} (h : segment.Within rest) (hs : rest ⊆ text) :
    segment.Within text := by
  cases segment with
  | value tag => exact fun c hc => hs (h hc)
  | block kind expression body => exact ⟨fun c hc => hs (h.1 hc), fun c hc => hs (h.2 hc)⟩
  | _ => trivial

/-- What the segments of a template read is taken from the template. -/
lemma within_of_mem_segments (text : List CodePoint) :
    ∀ segment ∈ segments text, segment.Within text := by
  fun_induction segments text with
  | case1 text ho => simp [Segment.Within]
  | case2 text before tail ho hc => simp [Segment.Within]
  | case3 text before tail ho content rest hc _ ihRest ihBehind =>
    -- All that follows a tag, and what is in it, is part of the text.
    have htail : content ++ closeMark ++ rest ⊆ text := by
      rw [cut?_eq_some_append ho, ← cut?_eq_some_append hc]
      exact List.subset_append_right _ _
    have hrest : rest ⊆ text := List.Subset.trans (List.subset_append_right _ _) htail
    have hcontent : content ⊆ text := by
      refine List.Subset.trans ?_ htail
      rw [List.append_assoc]
      exact List.subset_append_left _ _
    have hexpression : (Tag.parse (trim content)).expression ⊆ text :=
      fun c hc => hcontent (trim_subset _ (expression_parse_subset _ hc))
    have hnext : ∀ segment ∈ segments rest, segment.Within text :=
      fun segment hm => (ihRest segment hm).mono hrest
    refine List.forall_mem_cons.mpr ⟨trivial, ?_⟩
    split
    · next kind expression htag =>
      rw [htag] at hexpression
      split
      · exact List.forall_mem_cons.mpr ⟨trivial, hnext⟩
      · next n _ =>
        refine List.forall_mem_cons.mpr ⟨⟨hexpression, ?_⟩, ?_⟩
        · exact List.Subset.trans (List.take_subset _ _) hrest
        · intro segment hm
          exact (ihBehind kind n segment hm).mono (List.Subset.trans (List.drop_subset _ _) hrest)
    · exact List.forall_mem_cons.mpr ⟨trivial, hnext⟩
    · exact List.forall_mem_cons.mpr ⟨trivial, hnext⟩
    · exact List.forall_mem_cons.mpr ⟨hexpression, hnext⟩

/-! ### Loops -/

/-- Replacing adds nothing but the replacement. -/
lemma mem_replaceFrom {pattern replacement : List CodePoint} {skip : Nat}
    (h : c ∈ replaceFrom pattern replacement skip text) : c ∈ replacement ∨ c ∈ text := by
  induction text generalizing skip with
  | nil => cases skip <;> cases h
  | cons d text ih =>
    cases skip with
    | succ skip => exact (ih h).imp_right (List.mem_cons_of_mem d)
    | zero =>
      rw [replaceFrom] at h
      split at h
      · rcases List.mem_append.mp h with h | h
        · exact .inl h
        · exact (ih h).imp_right (List.mem_cons_of_mem d)
      · rcases List.mem_cons.mp h with rfl | h
        · exact .inr List.mem_cons_self
        · exact (ih h).imp_right (List.mem_cons_of_mem d)

/-- An item that is no text shows as digits and letters. -/
lemma isBasic_display {v : Value} (hs : opensScope v = false) :
    IsBasic (display (some v)) ∨ ∃ s, v = .text s := by
  cases v with
  | null => exact .inl isBasic_nil
  | bool b => cases b <;> simp [display]
  | int n => exact .inl (isBasic_intText n)
  | float x =>
    left
    rw [display]
    split
    · unfold numberText
      split
      · exact isBasic_intText _
      · exact isBasic_text x
    · exact isBasic_scriptText x
  | text s => exact .inr ⟨s, rfl⟩
  | list items => cases hs
  | object fields => cases hs

lemma isChar_quoted {s : Text} (h : s.isEncodable = true) :
    (Value.quoted s).all CodePoint.isChar = true := by
  have hescape : ∀ c : CodePoint, c.isChar = true →
      (Value.escapeChar c).all CodePoint.isChar = true := by
    intro c hc
    unfold Value.escapeChar
    split
    case h_8 => split <;> simp [hc, hexDigit]
    all_goals rfl
  rw [Text.isEncodable, List.all_eq_true] at h
  have hall : (s.toList.flatMap Value.escapeChar).all CodePoint.isChar = true := by
    rw [List.all_flatMap, List.all_eq_true]
    exact fun c hc => hescape c (h c hc)
  simp [Value.quoted, hall]

/-- What an item shows as is its own text, or written with digits and letters. -/
lemma mem_display {v : Value} (hs : opensScope v = false) (h : c ∈ display (some v)) :
    c.toNat < 123 ∨ ∃ s, v = .text s ∧ c ∈ s.toList := by
  rcases isBasic_display hs with hbasic | ⟨s, rfl⟩
  · exact .inl (hbasic c h).1
  · exact .inr ⟨s, rfl, h⟩

mutual

/-- JSON text on one line has no characters but those of keys and texts, and basic ones. -/
lemma isChar_compact : ∀ {v : Value}, v.IsEncodable → v.compact.all CodePoint.isChar = true
  | .null, _ => rfl
  | .bool b, _ => by cases b <;> rfl
  | .int n, _ => (isBasic_intText n).isChar
  | .float x, _ => (isBasic_scriptText x).isChar
  | .text s, h => isChar_quoted (Value.isEncodable_text.mp h)
  | .list [], _ => rfl
  | .list (v :: rest), h => by
    obtain ⟨hv, hrest⟩ := List.forall_mem_cons.mp (Value.isEncodable_list.mp h)
    simp [Value.compact, isChar_compact hv, isChar_compactItems hrest]
  | .object [], _ => rfl
  | .object ((k, v) :: rest), h => by
    obtain ⟨⟨hk, hv⟩, hrest⟩ := List.forall_mem_cons.mp (Value.isEncodable_object.mp h)
    simp [Value.compact, isChar_quoted hk, isChar_compact hv, isChar_compactFields hrest]

lemma isChar_compactItems : ∀ {items : List Value}, (∀ v ∈ items, v.IsEncodable) →
    (Value.compactItems items).all CodePoint.isChar = true
  | [], _ => rfl
  | v :: rest, h => by
    obtain ⟨hv, hrest⟩ := List.forall_mem_cons.mp h
    simp [Value.compactItems, isChar_compact hv, isChar_compactItems hrest]

lemma isChar_compactFields : ∀ {fields : List (Text × Value)},
    (∀ field ∈ fields, field.1.isEncodable = true ∧ field.2.IsEncodable) →
    (Value.compactFields fields).all CodePoint.isChar = true
  | [], _ => rfl
  | (k, v) :: rest, h => by
    obtain ⟨⟨hk, hv⟩, hrest⟩ := List.forall_mem_cons.mp h
    simp [Value.compactFields, isChar_quoted hk, isChar_compact hv, isChar_compactFields hrest]

end

/-- What a value with bytes shows as has bytes. -/
lemma isChar_display {v : Value} (h : v.IsEncodable) :
    (display (some v)).all CodePoint.isChar = true := by
  cases hs : opensScope v with
  | false =>
    rcases isBasic_display hs with hbasic | ⟨s, rfl⟩
    · exact hbasic.isChar
    · exact Value.isEncodable_text.mp h
  | true =>
    cases v with
    | list items => exact isChar_compact h
    | object fields => exact isChar_compact h
    | _ => cases hs

/-- What a loop adds to its body is the key, the text or a writing of a number of the entry. -/
lemma mem_entryBody {entry : Entry} {body : List CodePoint} (h : c ∈ entry.body body) :
    c ∈ body ∨ c ∈ entry.key ∨ c.toNat < 123 ∨ ∃ s, entry.value = .text s ∧ c ∈ s.toList := by
  have hmarked : ∀ {c}, c ∈ replaceAll keyMarker entry.key
      (replaceAll indexMarker (decimal entry.position) body) →
      c ∈ body ∨ c ∈ entry.key ∨ c.toNat < 123 := by
    intro c h
    rcases mem_replaceFrom h with h | h
    · exact .inr (.inl h)
    · rcases mem_replaceFrom h with h | h
      · exact .inr (.inr (isBasic_decimal _ c h).1)
      · exact .inl h
  unfold Entry.body at h
  split at h
  · exact (hmarked h).imp_right (Or.imp_right .inl)
  · next hs =>
    rcases mem_replaceFrom h with h | h
    · exact .inr (.inr (mem_display (Bool.not_eq_true _ ▸ hs) h))
    · exact (hmarked h).imp_right (Or.imp_right .inl)

end TripProposal.Template
