import TripProposal.Proofs.Text.Words
import TripProposal.Template.Tag

/-!
# The grammar of tags

Reading a tag tries one form after the other. `Tag.SpelledBy` says in which ways each form can be
written, with no order among its rules. Both agree: every form has a first word of its own, so no
content fits two of them, and what fits none is a value tag.
-/

namespace TripProposal.Template

open Text

variable {tag : Tag} {name : Text}
  {text content call gap path quoted singular plural rest : List CodePoint}

/-! ### Spellings -/

/-- Whether a text can stand between quotes. -/
structure IsQuotable (text : List CodePoint) : Prop where
  ne_nil : text ≠ []
  no_quote : .char '"' ∉ text

instance : DecidablePred IsQuotable := fun text =>
  decidable_of_iff (text ≠ [] ∧ .char '"' ∉ text) ⟨fun h => ⟨h.1, h.2⟩, fun h => ⟨h.1, h.2⟩⟩

/-- Whether a text holds together between blanks. -/
structure IsUnbroken (text : List CodePoint) : Prop where
  ne_nil : text ≠ []
  no_blank : ∀ c ∈ text, isBlank c = false

instance : DecidablePred IsUnbroken := fun text =>
  decidable_of_iff (text ≠ [] ∧ text.all (!isBlank ·) = true)
    ⟨fun h => ⟨h.1, by simpa using h.2⟩, fun h => ⟨h.ne_nil, by simpa using h.no_blank⟩⟩

/-- The spellings of a helper that is applied to a path and a quoted text. -/
inductive IsCall (name : Text) (path quoted : List CodePoint) : List CodePoint → Prop
  /-- The gaps around the path can be of any width. -/
  | intro {before behind : List CodePoint} (hbefore : IsGap before) (hpath : IsUnbroken path)
    (hbehind : IsGap behind) (hquoted : IsQuotable quoted) :
    IsCall name path quoted (name.toList ++ (before ++ (path ++ (behind ++ Tag.quote quoted))))

/-- The contents that spell a tag. A value tag has no spelling of its own. -/
inductive Tag.SpelledBy : Tag → List CodePoint → Prop
  | block (kind : BlockKind) (rest : List CodePoint) :
    SpelledBy (.block kind (trim rest)) (.char '#' :: kind.word.toList ++ .char ' ' :: rest)
  | close (name : List CodePoint) : SpelledBy (.close (trim name)) ('/' :: name)
  | otherwise : SpelledBy .otherwise "else".codePoints
  | timestamp : SpelledBy .timestamp "timestamp".codePoints
  | helper (h : PathHelper) {rest : List CodePoint} (hrest : trim rest ≠ []) :
    SpelledBy (.helper h (trim rest)) (h.word.toList ++ .char ' ' :: rest)
  | singular {path singular call rest : List CodePoint}
    (hcall : IsCall "pluralize" path singular call)
    (hrest : atEnd rest = true) : SpelledBy (.pluralize path singular none) (call ++ rest)
  | plural {path singular plural call gap rest : List CodePoint}
    (hcall : IsCall "pluralize" path singular call) (hgap : IsGap gap)
    (hplural : IsQuotable plural) (hrest : atEnd rest = true) :
    SpelledBy (.pluralize path singular (some plural))
      (call ++ (gap ++ (Tag.quote plural ++ rest)))
  | fallback {path text call rest : List CodePoint} (hcall : IsCall "default" path text call)
    (hrest : atEnd rest = true) : SpelledBy (.fallback path text) (call ++ rest)

/-! ### Paths and quoted texts -/

lemma IsUnbroken.head_not_isBlank (h : IsUnbroken path) (rest : List CodePoint) :
    ∀ c ∈ (path ++ rest).head?, isBlank c = false := by
  obtain ⟨c, path, rfl⟩ := List.exists_cons_of_ne_nil h.ne_nil
  rintro d ⟨⟩
  exact h.no_blank c List.mem_cons_self

lemma IsCall.head?_append {c : CodePoint} (h : IsCall name path quoted call)
    (hname : name.toList.head? = some c) (rest : List CodePoint) :
    (call ++ rest).head? = some c := by
  cases h
  rw [List.append_assoc, List.head?_append, hname, Option.some_or]

/-- A quoted text is read up to the next quote. -/
lemma takeQuoted?_eq_some_iff : takeQuoted? text = some (quoted, rest) ↔
    IsQuotable quoted ∧ text = Tag.quote quoted ++ rest := by
  constructor
  · intro h
    unfold takeQuoted? at h
    split at h
    · next behind =>
      split at h
      · cases h
      · next hbehind hne =>
        cases h
        obtain ⟨hbehind, hquoted, -⟩ := takeWhile_dropWhile_iff.mp ⟨rfl, hbehind⟩
        refine ⟨⟨hne, fun hmem => ?_⟩, ?_⟩
        · simpa using hquoted _ hmem
        · have htext : behind = behind.takeWhile (· ≠ .char '"') ++ ([.char '"'] ++ rest) := hbehind
          rw [Tag.quote, List.cons_append, List.cons_append, List.append_assoc, ← htext]
      · cases h
    · cases h
  · rintro ⟨⟨hne, hquote⟩, rfl⟩
    have htext : Tag.quote quoted ++ rest =
        .char '"' :: (quoted ++ .char '"' :: rest) := by simp [Tag.quote]
    have hcut : (quoted ++ .char '"' :: rest).takeWhile (· ≠ .char '"') = quoted ∧
        (quoted ++ .char '"' :: rest).dropWhile (· ≠ .char '"') = .char '"' :: rest :=
      takeWhile_dropWhile_iff.mpr ⟨rfl, by grind, by simp⟩
    rw [htext, takeQuoted?, hcut.1, hcut.2]
    obtain ⟨c, quoted, rfl⟩ := List.exists_cons_of_ne_nil hne
    rfl

/-- Behind a gap, too. -/
lemma takeGap?_bind_takeQuoted?_eq_some_iff :
    (takeGap? text).bind takeQuoted? = some (quoted, rest) ↔
      ∃ gap, IsGap gap ∧ IsQuotable quoted ∧ text = gap ++ (Tag.quote quoted ++ rest) := by
  rw [Option.bind_eq_some_iff]
  constructor
  · rintro ⟨behind, hbehind, htake⟩
    obtain ⟨⟨gap, hgap, rfl⟩, -⟩ := takeGap?_eq_some_iff.mp hbehind
    obtain ⟨hquoted, rfl⟩ := takeQuoted?_eq_some_iff.mp htake
    exact ⟨gap, hgap, hquoted, rfl⟩
  · rintro ⟨gap, hgap, hquoted, rfl⟩
    refine ⟨_, takeGap?_append hgap ?_, takeQuoted?_eq_some_iff.mpr ⟨hquoted, rfl⟩⟩
    rintro c ⟨⟩
    decide

lemma takeGap?_bind_takeQuoted?_append (hgap : IsGap gap) (hquoted : IsQuotable quoted)
    (rest : List CodePoint) :
    (takeGap? (gap ++ (Tag.quote quoted ++ rest))).bind takeQuoted? = some (quoted, rest) :=
  takeGap?_bind_takeQuoted?_eq_some_iff.mpr ⟨gap, hgap, hquoted, rfl⟩

lemma takeGap?_bind_takeQuoted?_of_atEnd (h : atEnd rest = true) :
    (takeGap? rest).bind takeQuoted? = none := by
  rw [atEnd, Bool.or_eq_true, beq_iff_eq, beq_iff_eq] at h
  rcases h with rfl | rfl <;> rfl

/-- The reader of calls takes the calls of the grammar. -/
lemma takePathAndQuoted?_eq_some_iff : takePathAndQuoted? name content = some (path, quoted, rest) ↔
    ∃ call, IsCall name path quoted call ∧ content = call ++ rest := by
  constructor
  · intro h
    unfold takePathAndQuoted? at h
    split at h
    · cases h
    · next behindGap hname =>
      obtain ⟨behindName, hprefix, hgap⟩ := Option.bind_eq_some_iff.mp hname
      obtain ⟨⟨before, hbefore, rfl⟩, -⟩ := takeGap?_eq_some_iff.mp hgap
      split at h
      · cases h
      · next word behindPath hne hword =>
        obtain ⟨⟨_, _⟩, htake, heq⟩ := Option.map_eq_some_iff.mp h
        cases heq
        obtain ⟨rfl, hpath, -⟩ := takeWord_eq_iff.mp hword
        obtain ⟨behind, hbehind, hquoted, rfl⟩ :=
          takeGap?_bind_takeQuoted?_eq_some_iff.mp htake
        refine ⟨_, ⟨hbefore, ⟨hne, hpath⟩, hbehind, hquoted⟩, ?_⟩
        rw [isPrefixOf?_eq_some_append hprefix]
        simp only [List.append_assoc]
  · rintro ⟨_, @⟨before, behind, hbefore, hpath, hbehind, hquoted⟩, rfl⟩
    simp only [List.append_assoc]
    -- Backwards the four pieces are taken one after the other, each up to where it ends.
    have hname : ((name.toList.isPrefixOf? (name.toList ++ (before ++
        (path ++ (behind ++ (Tag.quote quoted ++ rest)))))).bind takeGap?) =
          some (path ++ (behind ++ (Tag.quote quoted ++ rest))) := by
      rw [isPrefixOf?_append, Option.bind_some, takeGap?_append hbefore (hpath.head_not_isBlank _)]
    have hword : takeWord (path ++ (behind ++ (Tag.quote quoted ++ rest))) =
        (path, behind ++ (Tag.quote quoted ++ rest)) :=
      takeWord_eq_iff.mpr ⟨rfl, hpath.no_blank, hbehind.head_isBlank _⟩
    rw [takePathAndQuoted?, hname]
    simp only [hword]
    obtain ⟨c, path, rfl⟩ := List.exists_cons_of_ne_nil hpath.ne_nil
    simp only [takeGap?_bind_takeQuoted?_append hbehind hquoted, Option.map_some]

/-! ### What is read is spelled -/

/-- What is read as a block is spelled as one. -/
lemma spelledBy_of_parseBlock? (h : parseBlock? content = some tag) : tag.SpelledBy content := by
  obtain ⟨kind, -, hkind⟩ := List.exists_of_findSome?_eq_some h
  obtain ⟨rest, hprefix, rfl⟩ := Option.map_eq_some_iff.mp hkind
  rw [isPrefixOf?_eq_some_append hprefix, List.append_assoc]
  exact .block kind rest

/-- What is read as a helper is spelled as one. -/
lemma spelledBy_of_parseHelper? (h : parseHelper? content = some tag) : tag.SpelledBy content := by
  obtain ⟨helper, -, hhelper⟩ := List.exists_of_findSome?_eq_some h
  obtain ⟨rest, hprefix, hrest⟩ := Option.bind_eq_some_iff.mp hhelper
  obtain ⟨hblank, heq⟩ := Option.ite_none_left_eq_some.mp hrest
  cases heq
  rw [isPrefixOf?_eq_some_append hprefix, List.append_assoc]
  refine .helper helper fun hnil => hblank ?_
  exact List.all_eq_true.mpr (trim_eq_nil_iff.mp hnil)

/-- What is read as a count is spelled as one. -/
lemma spelledBy_of_parsePluralize? (h : parsePluralize? content = some tag) :
    tag.SpelledBy content := by
  unfold parsePluralize? at h
  split at h
  · cases h
  · next path singular rest htake =>
    obtain ⟨call, hcall, rfl⟩ := takePathAndQuoted?_eq_some_iff.mp htake
    split at h
    · next plural after hbehind =>
      obtain ⟨gap, hgap, hplural, rfl⟩ := takeGap?_bind_takeQuoted?_eq_some_iff.mp hbehind
      obtain ⟨hafter, heq⟩ := Option.ite_none_right_eq_some.mp h
      cases heq
      exact .plural hcall hgap hplural hafter
    · obtain ⟨hrest, heq⟩ := Option.ite_none_right_eq_some.mp h
      cases heq
      exact .singular hcall hrest

/-- What is read with a text in its place is spelled so. -/
lemma spelledBy_of_parseFallback? (h : parseFallback? content = some tag) :
    tag.SpelledBy content := by
  unfold parseFallback? at h
  split at h
  · next path text rest htake =>
    obtain ⟨call, hcall, rfl⟩ := takePathAndQuoted?_eq_some_iff.mp htake
    obtain ⟨hrest, heq⟩ := Option.ite_none_right_eq_some.mp h
    cases heq
    exact .fallback hcall hrest
  · cases h

/-- A content spells the tag that it is read as, unless that is a value tag with all of the content
for its path. -/
lemma spelledBy_parse (content : List CodePoint) :
    (Tag.parse content).SpelledBy content ∨ Tag.parse content = .variable content := by
  -- The cases are the forms in the order in which they are tried.
  unfold Tag.parse
  split
  · next hblock => exact .inl (spelledBy_of_parseBlock? hblock)
  · split
    · exact .inl (.close _)
    · split
      · next helse => exact .inl (helse ▸ .otherwise)
      · split
        · next htime => exact .inl (htime ▸ .timestamp)
        · cases hh : parseHelper? content with
          | some tag => exact .inl (spelledBy_of_parseHelper? hh)
          | none =>
            cases hp : parsePluralize? content with
            | some tag => exact .inl (spelledBy_of_parsePluralize? hp)
            | none =>
              cases hf : parseFallback? content with
              | some tag => exact .inl (spelledBy_of_parseFallback? hf)
              | none => exact .inr rfl

/-! ### First letters -/

/-- No other form starts like a helper with a path. -/
lemma PathHelper.head?_append (h : PathHelper) (rest : List CodePoint) :
    ∃ c ∈ ([.char 'e', .char 'f', .char 'c', .char 'i'] : List CodePoint),
      (h.word.toList ++ rest).head? = some c := by
  cases h <;> exact ⟨_, by decide, rfl⟩

/-- The words of blocks are not in front of each other. -/
lemma isPrefixOf?_openerWord (kind kind' : BlockKind) (rest : List CodePoint) :
    (.char '#' :: kind'.word.toList ++ [.char ' '] : List CodePoint).isPrefixOf?
        (.char '#' :: kind.word.toList ++ .char ' ' :: rest) =
      if kind' = kind then some rest else none := by
  cases kind <;> cases kind' <;> rfl

/-- Nor are those of helpers. -/
lemma isPrefixOf?_helperWord (helper helper' : PathHelper) (rest : List CodePoint) :
    (helper'.word.toList ++ [.char ' '] : List CodePoint).isPrefixOf?
        (helper.word.toList ++ .char ' ' :: rest) =
      if helper' = helper then some rest else none := by
  cases helper <;> cases helper' <;> rfl

section FirstLetter

variable {c : CodePoint} (h : content.head? = some c)

include h

lemma ne_of_head? {word : List CodePoint} (hword : word.head? ≠ some c) : content ≠ word :=
  fun heq => hword (heq ▸ h)

lemma parseBlock?_eq_none (hc : c ≠ '#') : parseBlock? content = none := by
  rw [parseBlock?, List.findSome?_eq_none_iff]
  intro kind _
  rw [isPrefixOf?_eq_none_of_head? rfl h (Ne.symm hc)]
  rfl

lemma parseHelper?_eq_none (hc : c ∉ [.char 'e', .char 'f', .char 'c', .char 'i']) :
    parseHelper? content = none := by
  rw [parseHelper?, List.findSome?_eq_none_iff]
  intro helper _
  obtain ⟨d, hd, hhead⟩ := helper.head?_append [' ']
  rw [isPrefixOf?_eq_none_of_head? hhead h (ne_of_mem_of_not_mem hd hc)]
  rfl

lemma parsePluralize?_eq_none (hc : c ≠ 'p') : parsePluralize? content = none := by
  have hname : (Text.toList "pluralize").head? = some (.char 'p') := rfl
  rw [parsePluralize?, takePathAndQuoted?, isPrefixOf?_eq_none_of_head? hname h (Ne.symm hc)]
  rfl

/-- A content that neither opens nor closes a block and is no single word of the language is a
helper with what it is applied to, or else a path. -/
lemma parse_of_neutral (hopen : c ≠ '#') (hclose : c ≠ '/') (helse : content ≠ "else".codePoints)
    (htime : content ≠ "timestamp".codePoints) :
    Tag.parse content = ((parseHelper? content).orElse fun _ => (parsePluralize? content).orElse
      fun _ => parseFallback? content).getD (.variable content) := by
  simp only [Tag.parse, parseBlock?_eq_none h hopen]
  split
  · exact absurd (Option.some.inj h).symm hclose
  · rw [if_neg helse, if_neg htime]

end FirstLetter

/-! ### What is spelled is read -/

/-- An opener is read as a block. -/
lemma parse_block (kind : BlockKind) (rest : List CodePoint) :
    Tag.parse (.char '#' :: kind.word.toList ++ .char ' ' :: rest) = .block kind (trim rest) := by
  have hblock : parseBlock? (.char '#' :: kind.word.toList ++ .char ' ' :: rest) =
      some (.block kind (trim rest)) := by
    simp only [parseBlock?, isPrefixOf?_openerWord]
    cases kind <;> rfl
  simp only [Tag.parse, hblock]

/-- A closer is read as one. -/
lemma parse_close (name : List CodePoint) : Tag.parse ('/' :: name) = .close (trim name) := by
  have hblock : parseBlock? ('/' :: name) = none := parseBlock?_eq_none rfl (by decide)
  simp only [Tag.parse, hblock]

/-- A helper with a path is read as one. -/
lemma parse_helper (h : PathHelper) (hrest : trim rest ≠ []) :
    Tag.parse (h.word.toList ++ .char ' ' :: rest) = .helper h (trim rest) := by
  have hblank : isAllBlank rest = false := by
    rw [← Bool.not_eq_true]
    exact fun hall => hrest (trim_eq_nil_iff.mpr (List.all_eq_true.mp hall))
  have hhelper : parseHelper? (h.word.toList ++ .char ' ' :: rest) =
      some (.helper h (trim rest)) := by
    simp only [parseHelper?, isPrefixOf?_helperWord]
    cases h <;> simp [PathHelper.all, hblank]
  have hword {word : List CodePoint} (hw : .char ' ' ∉ word) :
      h.word.toList ++ .char ' ' :: rest ≠ word := by
    rintro rfl
    exact hw (by simp)
  obtain ⟨c, hc, hhead⟩ := h.head?_append (' ' :: rest)
  rw [parse_of_neutral hhead (ne_of_mem_of_not_mem hc (by decide))
    (ne_of_mem_of_not_mem hc (by decide)) (hword (by decide)) (hword (by decide)), hhelper]
  rfl

lemma parse_of_parsePluralize? (hhead : content.head? = some (.char 'p'))
    (h : parsePluralize? content = some tag) : Tag.parse content = tag := by
  rw [parse_of_neutral hhead (by decide) (by decide) (ne_of_head? hhead (by decide))
    (ne_of_head? hhead (by decide)), parseHelper?_eq_none hhead (by decide), h]
  rfl

/-- A count with a singular is read. -/
lemma parse_singular (hcall : IsCall "pluralize" path singular call) (hrest : atEnd rest = true) :
    Tag.parse (call ++ rest) = .pluralize path singular none := by
  refine parse_of_parsePluralize? (hcall.head?_append rfl rest) ?_
  rw [parsePluralize?, takePathAndQuoted?_eq_some_iff.mpr ⟨call, hcall, rfl⟩]
  simp only [takeGap?_bind_takeQuoted?_of_atEnd hrest, hrest, if_true]

/-- A count with both forms is read. -/
lemma parse_plural (hcall : IsCall "pluralize" path singular call) (hgap : IsGap gap)
    (hplural : IsQuotable plural) (hrest : atEnd rest = true) :
    Tag.parse (call ++ (gap ++ (Tag.quote plural ++ rest))) =
      .pluralize path singular (some plural) := by
  refine parse_of_parsePluralize? (hcall.head?_append rfl _) ?_
  rw [parsePluralize?, takePathAndQuoted?_eq_some_iff.mpr ⟨call, hcall, rfl⟩]
  simp only [takeGap?_bind_takeQuoted?_append hgap hplural, hrest, if_true]

/-- A value with a text in its place is read. -/
lemma parse_fallback (hcall : IsCall "default" path text call) (hrest : atEnd rest = true) :
    Tag.parse (call ++ rest) = .fallback path text := by
  have hfallback : parseFallback? (call ++ rest) = some (.fallback path text) := by
    rw [parseFallback?, takePathAndQuoted?_eq_some_iff.mpr ⟨call, hcall, rfl⟩]
    simp only [hrest, if_true]
  have hhead : (call ++ rest).head? = some (.char 'd') := hcall.head?_append rfl rest
  rw [parse_of_neutral hhead (by decide) (by decide) (ne_of_head? hhead (by decide))
    (ne_of_head? hhead (by decide)), parseHelper?_eq_none hhead (by decide),
    parsePluralize?_eq_none hhead (by decide), hfallback]
  rfl

namespace Tag

/-- A content is read as the tag that it spells: no other form comes first. -/
lemma SpelledBy.parse_eq (h : tag.SpelledBy content) : parse content = tag := by
  cases h with
  | block kind rest => exact parse_block kind rest
  | close name => exact parse_close name
  | otherwise => decide
  | timestamp => decide
  | helper h hrest => exact parse_helper h hrest
  | singular hcall hrest => exact parse_singular hcall hrest
  | plural hcall hgap hplural hrest => exact parse_plural hcall hgap hplural hrest
  | fallback hcall hrest => exact parse_fallback hcall hrest

/-- Reading and the grammar agree on all tags but the value tags. -/
lemma parse_eq_iff (hvalue : ∀ path, tag ≠ .variable path) :
    parse content = tag ↔ tag.SpelledBy content := by
  constructor
  · rintro rfl
    exact (spelledBy_parse content).resolve_right (hvalue content)
  · exact SpelledBy.parse_eq

end Tag

end TripProposal.Template
