import TripProposal.Proofs.Template.Characters
import TripProposal.Proofs.Template.Faults
import TripProposal.Proofs.Text.Digits
import TripProposal.Proofs.Value.Number

/-!
# Lenient rendering

Malformed tags, unmatched blocks, paths that lead nowhere or through values of another type, and
arguments that a helper has no use for never end rendering. When what looks like a digit is one
and whole numbers are not beyond the range of numbers, two kinds of texts do: an amount with an
information separator in front of it, and a text with a lone surrogate that is put into a URL. The
separators count as blanks when the number is looked for, and not when it is read. A lone surrogate
has no bytes.
-/

namespace TripProposal

open Text Number

/-- A document without characters that only look like digits and without whole numbers beyond the
range of numbers. -/
structure Value.Legible (data : Value) : Prop where
  texts : ∀ s, data.Holds (.text s) → DigitsAreDecimal s.toList
  keys : ∀ fields, data.Holds (.object fields) → ∀ key v, (key, v) ∈ fields →
    DigitsAreDecimal key.toList
  numbers : ∀ v, data.Holds v → ¬ v.IsBeyondRange

namespace Template

/-! ### Faults -/

/-- Whether a text has a number behind blanks, one of which is an information separator. -/
def SeparatedNumber (text : List CodePoint) : Prop :=
  (∃ c ∈ text.takeWhile isBlank, 28 ≤ c.toNat ∧ c.toNat ≤ 31) ∧
    (takeNumeral? (text.dropWhile isBlank)).isSome

/-- The faults that come from limits: of nesting, of the digits that a whole number may have where
it is read or shown, and of the lengths that are numbers. -/
inductive Fault.IsLimit (data : Value) : Fault → Prop
  | depth : IsLimit data .tooDeep
  /-- A position in a list has more digits than a whole number may have. -/
  | digits {segment : List CodePoint} (hd : ∀ c ∈ segment, isDecimalDigit c)
    (h : Value.maxDigits < segment.length) : IsLimit data (.notAnIndex segment)
  /-- An amount has more digits before its point than a whole number may have. -/
  | amountDigits {v : Value} {a : Amount} (hv : data.Reaches v) (ha : amountOf v = .ok (some a))
    (h : Value.maxDigits < (decimal (a.cents / 100)).length) : IsLimit data .amountTooLong
  | listLength {items : List Value} (h : data.Holds (.list items))
    (hl : (Value.int items.length).IsBeyondRange) : IsLimit data .countTooLarge
  | textLength {s : Text} (h : data.Holds (.text s))
    (hl : (Value.int s.toList.length).IsBeyondRange) : IsLimit data .countTooLarge

/-- The faults that a document can cause: limits, separated numbers that are shown as amounts, and
values with lone surrogates that are put into a URL. -/
inductive Fault.ComesFrom (data : Value) : Fault → Prop
  | limit {fault : Fault} (h : fault.IsLimit data) : ComesFrom data fault
  /-- A text of the document is a separated number. -/
  | separated {s : Text} (h : data.Holds (.text s)) (hs : SeparatedNumber s.toList) :
    ComesFrom data .separatorBeforeAmount
  | surrogate {v : Value} (hv : data.Reaches v) (h : ¬ v.IsEncodable) :
    ComesFrom data (.notEncodable (display (some v)))

variable {data v : Value} {fault : Fault} {scope : Scope}

/-- Reading the beginning of a text as a number fails exactly for separated numbers. -/
lemma readLeading_eq_error_iff (text : List CodePoint) :
    readLeading text = .error .separatorBefore ↔ SeparatedNumber text := by
  have hblanks : (text.takeWhile isBlank).all isNumberBlank = false ↔
      ∃ c ∈ text.takeWhile isBlank, 28 ≤ c.toNat ∧ c.toNat ≤ 31 := by
    rw [List.all_eq_false]
    refine exists_congr fun c => and_congr_right fun hc => ?_
    have hblank : isBlank c = true := List.mem_takeWhile_imp hc
    simp [isNumberBlank, hblank]
  unfold readLeading SeparatedNumber
  rw [← hblanks]
  cases takeNumeral? (text.dropWhile isBlank) with
  | none => simp
  | some found => cases (text.takeWhile isBlank).all isNumberBlank <;> simp

/-! ### Paths -/

/-- Decimal digits are a position unless there are too many. -/
lemma isLimit_of_indexOf? {segment : List CodePoint} (hd : DigitsAreDecimal segment)
    (h : indexOf? segment = .error fault) : fault.IsLimit data := by
  unfold indexOf? at h
  split at h
  · next hlike =>
    split at h
    · cases h
    · next hindex =>
      cases h
      have hall : ∀ c ∈ segment, isDecimalDigit c := by
        rw [Bool.and_eq_true, List.all_eq_true] at hlike
        exact fun c hc => hd c hc (hlike.2 c hc)
      refine .digits hall ?_
      rw [List.all_eq_true.mpr hall] at hindex
      simpa using hindex
  · cases h

/-- A path with decimal digits has no other faults. -/
lemma isLimit_of_resolve {path : List CodePoint} (hd : DigitsAreDecimal path)
    (h : scope.resolve path = .error fault) : fault.IsLimit data := by
  obtain ⟨segment, hm, hindex⟩ := indexOf?_of_resolve h
  exact isLimit_of_indexOf? (hd.subset (subset_of_mem_splitAtMark hm)) hindex

/-! ### Values in scope -/

lemma digitsAreDecimal_of_isBasic {text : List CodePoint} (h : IsBasic text) :
    DigitsAreDecimal text :=
  digitsAreDecimal_of_lt fun c hc => Nat.lt_trans (h c hc).1 (by simp)

/-- The digits in texts of a legible document are decimal. -/
lemma digitsAreDecimal_text {s : Text} (hdata : data.Legible)
    (h : data.Reaches (.text s)) : DigitsAreDecimal s.toList := by
  cases h with
  | part h => exact hdata.texts s h

/-- What an item shows as has decimal digits only. -/
lemma digitsAreDecimal_display (hdata : data.Legible) (hv : data.Reaches v)
    (hs : opensScope v = false) : DigitsAreDecimal (display (some v)) := by
  intro c hc
  rcases mem_display hs hc with hbasic | ⟨s, rfl, hc⟩
  · exact isDecimalDigit_of_lt (by omega)
  · exact digitsAreDecimal_text hdata hv c hc

/-- JSON in brackets or braces is no position. -/
lemma indexOf?_display_of_opensScope (hs : opensScope v = true) :
    indexOf? (display (some v)) = .ok none := by
  have hmark : ∀ c, c.toNat < 178 → isDecimalDigit c = false → isDigitLike c = false := by
    intro c hc hd
    rw [← Bool.not_eq_true] at hd ⊢
    exact fun h => hd (isDecimalDigit_of_lt hc h)
  have hbracket : isDigitLike '[' = false := hmark '[' (by simp) (by decide)
  have hbrace : isDigitLike '{' = false := hmark '{' (by simp) (by decide)
  obtain ⟨c, rest, hdisplay, hc⟩ : ∃ c rest, display (some v) = c :: rest ∧
      isDigitLike c = false := by
    cases v with
    | list items => cases items <;> exact ⟨_, _, rfl, hbracket⟩
    | object fields => cases fields <;> exact ⟨_, _, rfl, hbrace⟩
    | _ => cases hs
  simp [indexOf?, hdisplay, hc]

/-- Nor have the expressions of blocks. -/
lemma isLimit_of_target {expression : List CodePoint} (hdata : data.Legible)
    (hscope : scope.Within data) (hd : DigitsAreDecimal expression)
    (h : scope.target expression = .error fault) : fault.IsLimit data := by
  rcases error_of_target h with h | ⟨object, key, hparse, h⟩
  · exact isLimit_of_resolve hd h
  · obtain ⟨hobject, hkey⟩ := paths_subset_of_parseLookup? hparse
    rcases h with h | h | ⟨v, hv, hindex⟩
    · exact isLimit_of_resolve (hd.subset hobject) h
    · exact isLimit_of_resolve (hd.subset hkey) h
    · cases hs : opensScope v with
      | true =>
        rw [indexOf?_display_of_opensScope hs] at hindex
        cases hindex
      | false =>
        have hreach := hscope v (Scope.reaches_resolve hv)
        exact isLimit_of_indexOf? (digitsAreDecimal_display hdata hreach hs) hindex

/-! ### Helpers -/

/-- Only a whole number beyond the range of numbers has no count. -/
lemma isBeyondRange_of_countOf {v : Option Value} (h : countOf v = .error fault) :
    fault = .countTooLarge ∧ ∃ w ∈ v, w.IsBeyondRange := by
  unfold countOf at h
  split at h
  · cases h
  · cases h
  · next w _ =>
    split at h
    · cases h
    · cases h
    · next hnumber =>
      cases h
      refine ⟨rfl, w, rfl, ?_⟩
      by_contra hw
      obtain ⟨x, hx⟩ := w.exists_number?.mpr hw
      rw [hx] at hnumber
      cases hnumber

/-- A count is a limit only. -/
lemma isLimit_of_displayCount {v : Option Value} {singular : List CodePoint}
    {plural? : Option (List CodePoint)} (hdata : data.Legible) (hv : ∀ w ∈ v, data.Reaches w)
    (h : displayCount v singular plural? = .error fault) : fault.IsLimit data := by
  obtain ⟨rfl, w, hw, hbeyond⟩ := isBeyondRange_of_countOf (eq_error_of_map h)
  cases hv w hw with
  | part hpart => exact absurd hbeyond (hdata.numbers w hpart)
  | listLength hlist => exact .listLength hlist hbeyond
  | textLength htext => exact .textLength htext hbeyond

/-- Only a separated number cannot be read as an amount. -/
lemma separated_of_amountOf (h : amountOf v = .error fault) :
    fault = .separatorBeforeAmount ∧ ∃ s, v = .text s ∧ SeparatedNumber s.toList := by
  unfold amountOf at h
  split at h
  · cases h
  · cases h
  · next s =>
    split at h
    · cases h
    · next hread =>
      cases h
      exact ⟨rfl, s, rfl, (readLeading_eq_error_iff _).mp hread⟩
  · cases h

/-- An amount fails at a limit or at a separated number. -/
lemma comesFrom_of_displayCurrency {v : Option Value} (hv : ∀ w ∈ v, data.Reaches w)
    (h : displayCurrency v = .error fault) : fault.ComesFrom data := by
  obtain ⟨w, hw, hamount | ⟨rfl, a, hamount, hdigits⟩⟩ := error_of_displayCurrency h
  · obtain ⟨rfl, s, rfl, hs⟩ := separated_of_amountOf hamount
    cases hv _ hw with
    | part hpart => exact .separated hpart hs
  · exact .limit (.amountDigits (hv w hw) hamount hdigits)

/-- Only a value with a lone surrogate has no place in a URL. -/
lemma comesFrom_of_displayUri {v : Option Value} (hv : ∀ w ∈ v, data.Reaches w)
    (h : displayUri v = .error fault) : fault.ComesFrom data := by
  obtain ⟨rfl, hchars⟩ := error_of_displayUri h
  cases v with
  | none => cases hchars
  | some v =>
    refine .surrogate (hv v rfl) fun hv => ?_
    rw [isChar_display hv] at hchars
    cases hchars

/-- A value tag fails only for what a document can cause. -/
lemma comesFrom_of_tagText (engine : Engine) {tag : Tag} (hdata : data.Legible)
    (hscope : scope.Within data) (hd : DigitsAreDecimal tag.expression)
    (h : engine.tagText scope tag = .error fault) : fault.ComesFrom data := by
  rcases error_of_tagText h with h | ⟨v, hv, h⟩
  · exact .limit (isLimit_of_resolve hd h)
  · have hreach : ∀ w ∈ v, data.Reaches w := by
      intro w hw
      rw [Option.mem_def.mp hw] at hv
      exact hscope w (Scope.reaches_resolve hv)
    rcases h with h | h | ⟨singular, plural?, h⟩
    · exact comesFrom_of_displayCurrency hreach h
    · exact comesFrom_of_displayUri hreach h
    · exact .limit (isLimit_of_displayCount hdata hreach h)

/-! ### Blocks -/

/-- The keys of entries have decimal digits only. -/
lemma digitsAreDecimal_key {entry : Entry} (hdata : data.Legible) (hv : data.Reaches v)
    (he : entry ∈ entriesOf (some v)) : DigitsAreDecimal entry.key := by
  rcases key_of_mem_entriesOf he with ⟨n, hkey⟩ | ⟨fields, key, w, rfl, hm, hkey⟩
  · rw [hkey]
    exact digitsAreDecimal_of_isBasic (isBasic_decimal n)
  · rw [hkey]
    cases hv with
    | part h => exact hdata.keys fields h key w hm

/-- What a loop makes of its body has decimal digits only. -/
lemma digitsAreDecimal_entryBody {entry : Entry} {body : List CodePoint} (hdata : data.Legible)
    (hv : data.Reaches v) (he : entry ∈ entriesOf (some v)) (hd : DigitsAreDecimal body) :
    DigitsAreDecimal (entry.body body) := by
  intro c hc
  rcases mem_entryBody hc with hc | hc | hbasic | ⟨s, hs, hc⟩
  · exact hd c hc
  · exact digitsAreDecimal_key hdata hv he c hc
  · exact isDecimalDigit_of_lt (by omega)
  · exact digitsAreDecimal_text hdata (hv.trans (.part (hs ▸ holds_of_mem_entriesOf he))) c hc

/-- The texts of all levels have decimal digits only. -/
lemma digitsAreDecimal_of_opens {scope' : Scope} {expression body text : List CodePoint}
    {kind : BlockKind} (hdata : data.Legible) (hscope : scope.Within data)
    (hbody : DigitsAreDecimal body) (h : Opens scope expression body kind scope' text) :
    DigitsAreDecimal text := by
  cases h with
  | branch hbranch => exact hbody.subset (part_of_branch? hbranch).subset
  | unset => exact hbody
  | entry hv he =>
    exact digitsAreDecimal_entryBody hdata (hscope _ (Scope.reaches_resolve hv)) he hbody
  | inside _ => exact hbody

/-! ### Templates -/

/-- On all levels nothing is found but what a document reaches, and digits are decimal. -/
lemma levelInvariant_legible (engine : Engine) (hdata : data.Legible) :
    LevelInvariant engine (·.ComesFrom data)
      fun _ scope template => scope.Within data ∧ DigitsAreDecimal template where
  bottom _ := .limit .depth
  value h hm := comesFrom_of_tagText engine hdata h.1
    (h.2.subset (within_of_mem_segments _ _ hm))
  path h hm herror := by
    have hd := h.2.subset (within_of_mem_segments _ _ hm).1
    rcases herror with herror | herror
    · exact .limit (isLimit_of_resolve hd herror)
    · exact .limit (isLimit_of_target hdata h.1 hd herror)
  level h hm hopens := ⟨hopens.within h.1, digitsAreDecimal_of_opens hdata h.1
    (h.2.subset (within_of_mem_segments _ _ hm).2) hopens⟩

/-- Rendering is lenient: if nothing in the template or the document only looks like a digit and
no whole number is beyond the range of numbers, it ends with a text, unless a limit is reached, a
separated number of the document is shown as an amount, or a value with a lone surrogate is put
into a URL. -/
theorem render_lenient (engine : Engine) {template : Text} {data : Value}
    (htemplate : DigitsAreDecimal template.toList) (hdata : data.Legible) :
    (∃ text, (engine.render template data).outcome = .ok text) ∨
      ∃ fault, (engine.render template data).outcome = .error fault ∧
        (fault.IsLimit data ∨
          (fault = .separatorBeforeAmount ∧
            ∃ s, data.Holds (.text s) ∧ SeparatedNumber s.toList) ∨
          ∃ v, fault = .notEncodable (display (some v)) ∧ data.Reaches v ∧ ¬ v.IsEncodable) := by
  have hends : (engine.render template data).FaultsIn (·.ComesFrom data) :=
    (levelInvariant_legible engine hdata).faultsIn_renderAt ⟨Scope.Within.root, htemplate⟩
  unfold Rendering.outcome
  cases hf : (engine.render template data).fault? with
  | none => exact .inl ⟨_, rfl⟩
  | some fault =>
    refine .inr ⟨fault, rfl, ?_⟩
    cases hends fault hf with
    | limit h => exact .inl h
    | separated h hs => exact .inr (.inl ⟨rfl, _, h, hs⟩)
    | surrogate hv h => exact .inr (.inr ⟨_, rfl, hv, h⟩)

/-- A template that shows an amount. -/
def amountTemplate : Text := Text.ofList (delimited "formatCurrency x".codePoints)

/-- A document with a number behind an information separator. -/
def separatedAmount : Value := .object [("x", .text "\x1c5")]

lemma legible_separatedAmount : separatedAmount.Legible := by
  have hparts : ∀ v, separatedAmount.Holds v → v = separatedAmount ∨ v = .text "\x1c5" := by
    intro v hv
    cases hv with
    | self => exact .inl rfl
    | field hfield h =>
      cases List.mem_singleton.mp hfield
      cases h
      exact .inr rfl
  constructor
  · intro s hs
    rcases hparts _ hs with h | h <;> cases h
    exact digitsAreDecimal_of_lt (by simp)
  · intro fields hfields key v hm
    rcases hparts _ hfields with h | h <;> cases h
    cases List.mem_singleton.mp hm
    exact digitsAreDecimal_of_lt (by simp)
  · rintro v hv ⟨n, rfl, -⟩
    rcases hparts _ hv with h | h <;> cases h

lemma digitsAreDecimal_amountTemplate : DigitsAreDecimal amountTemplate.toList :=
  digitsAreDecimal_of_lt (by simp [amountTemplate, delimited, openMark, closeMark])

/-- An amount with a separator in front. -/
theorem render_lenient_separatedAmount :
    let engine : Engine := ⟨true, .ofDate ⟨2026, 1, 1, by decide⟩⟩
    DigitsAreDecimal amountTemplate.toList ∧ separatedAmount.Legible ∧
      ((∃ text, (engine.render amountTemplate separatedAmount).outcome = .ok text) ∨
        ∃ fault, (engine.render amountTemplate separatedAmount).outcome = .error fault ∧
          (fault.IsLimit separatedAmount ∨
            (fault = .separatorBeforeAmount ∧
              ∃ s, separatedAmount.Holds (.text s) ∧ SeparatedNumber s.toList) ∨
            ∃ v, fault = .notEncodable (display (some v)) ∧ separatedAmount.Reaches v ∧
              ¬ v.IsEncodable)) :=
  ⟨digitsAreDecimal_amountTemplate, legible_separatedAmount,
    render_lenient _ digitsAreDecimal_amountTemplate legible_separatedAmount⟩

/-- Nothing in the template or the document looks like a digit and is none, and all whole numbers
are in range; still there is no text. -/
theorem render_separatedAmount_fails :
    let engine : Engine := ⟨true, .ofDate ⟨2026, 1, 1, by decide⟩⟩
    DigitsAreDecimal amountTemplate.toList ∧ separatedAmount.Legible ∧
      (engine.render amountTemplate separatedAmount).outcome = .error .separatorBeforeAmount := by
  intro engine
  refine ⟨digitsAreDecimal_amountTemplate, legible_separatedAmount, ?_⟩
  let content : ValueContent :=
    ⟨⟨"formatCurrency x".codePoints, by decide, by decide, by decide⟩, by decide, by decide, by decide⟩
  have hparse : Tag.parse content.chars = .helper .currency ['x'] := by decide
  have htag : engine.tagText (.root separatedAmount) (.parse content.chars) =
      .error .separatorBeforeAmount := by
    rw [hparse]
    rfl
  have htemplate : amountTemplate.toList = delimited content.chars ++ [] := by decide
  rw [Engine.render, htemplate, depthFor, renderAt_value, htag]
  rfl

/-- Nor is there one when a lone surrogate is put into a URL. -/
example :
    let engine : Engine := ⟨true, .ofDate ⟨2026, 1, 1, by decide⟩⟩
    let document : Value := .object [("x", .text (Text.ofList [.surrogate 0]))]
    (engine.render (Text.ofList (delimited "encodeUri x".codePoints)) document).outcome =
      .error (.notEncodable [.surrogate 0]) := by
  decide +kernel

end Template

end TripProposal
