import TripProposal.Proofs.Number.Numerals
import TripProposal.Proofs.Text.Words

/-!
# Spellings of a day

The spellings of a day are given by a small grammar, and the reader of spellings takes exactly the
texts of this grammar. All spellings of a day have one key, and a key is its own key.
-/

namespace TripProposal.Calendar

open Text Number

variable {text rest word : List CodePoint} {day : Nat} {year? : Option Nat}

/-! ### The grammar -/

/-- The number of a day, in one or two digits. -/
structure IsDayNumber (day : Nat) (text : List CodePoint) : Prop extends IsNumber day text where
  ne_nil : text ≠ []
  length_le : text.length ≤ 2

/-- What follows day and month: nothing, or a year of four digits behind a gap, with or without a
comma. -/
inductive IsEnding : Option Nat → List CodePoint → Prop
  | nothing : IsEnding none []
  | year {comma gap digits : List CodePoint} {y : Nat} (hcomma : comma = [] ∨ comma = [.char ','])
    (hgap : IsGap gap) (hyear : IsNumber y digits) (hlength : digits.length = 4) :
    IsEnding (some y) (comma ++ (gap ++ digits))

/-- The spellings of a day with a word for the month, in front of the day or behind it. -/
inductive IsSpelling (word : List CodePoint) (day : Nat) (year? : Option Nat) :
    List CodePoint → Prop
  /-- `May 29, 2026` -/
  | monthFirst {gap digits ending : List CodePoint} (hword : IsWord word) (hgap : IsGap gap)
    (hday : IsDayNumber day digits) (hending : IsEnding year? ending) :
    IsSpelling word day year? (word ++ (gap ++ (digits ++ ending)))
  /-- `29 May 2026` -/
  | dayFirst {gap digits ending : List CodePoint} (hword : IsWord word) (hgap : IsGap gap)
    (hday : IsDayNumber day digits) (hending : IsEnding year? ending) :
    IsSpelling word day year? (digits ++ (gap ++ (word ++ ending)))

/-! ### Reading -/

lemma IsDayNumber.head_isDecimalDigit {digits : List CodePoint} (h : IsDayNumber day digits)
    (rest : List CodePoint) : ∀ c ∈ (digits ++ rest).head?, isDecimalDigit c = true := by
  obtain ⟨c, digits, rfl⟩ := List.exists_cons_of_ne_nil h.ne_nil
  rintro d ⟨⟩
  exact h.digits c (by simp)

/-- The reader of day numbers takes one or two digits that no digit follows. -/
lemma takeDayNumber?_eq_some_iff : takeDayNumber? text = some (day, rest) ↔
    (∃ digits, IsDayNumber day digits ∧ text = digits ++ rest) ∧
      ∀ c ∈ rest.head?, isDecimalDigit c = false := by
  constructor
  · intro h
    unfold takeDayNumber? at h
    split at h
    · cases h
    · next places rest' hne htake =>
      split at h
      · next hlength =>
        cases h
        obtain ⟨digits, htext, hdigits, rfl, hhead⟩ := takeDigits_eq_iff.mp htake
        rw [length_placesOf hdigits] at hlength
        refine ⟨⟨digits, ⟨⟨hdigits, rfl⟩, ?_, hlength⟩, htext⟩, hhead⟩
        rintro rfl
        exact hne rfl
      · cases h
  · rintro ⟨⟨digits, hday, rfl⟩, hhead⟩
    have htake := takeDigits_eq_iff.mpr ⟨digits, rfl, hday.digits, rfl, hhead⟩
    have hlength := length_placesOf hday.digits
    unfold takeDayNumber?
    split
    · next hnil =>
      rw [htake, Prod.mk.injEq] at hnil
      rw [hnil.1] at hlength
      exact absurd (List.length_eq_zero_iff.mp hlength.symm) hday.ne_nil
    · next hsome =>
      rw [htake] at hsome
      cases hsome
      rw [if_pos (hlength ▸ hday.length_le), hday.value]

/-- What follows the day and the month carries neither of them on. -/
lemma IsEnding.head_not_isDecimalDigit (h : IsEnding year? text) :
    ∀ c ∈ text.head?, isDecimalDigit c = false ∧ c.isAlpha = false := by
  cases h with
  | nothing => exact nofun
  | year hcomma hgap hyear hlength =>
    intro c hc
    rcases hcomma with rfl | rfl
    · have hblank := hgap.head_isBlank _ c hc
      exact ⟨not_isDecimalDigit_of_isBlank hblank, not_isAlpha_of_isBlank hblank⟩
    · cases hc
      decide

/-- The gap and the year of an ending. -/
lemma takeGap?_year {gap digits : List CodePoint} {y : Nat} (hgap : IsGap gap)
    (hyear : IsNumber y digits) : takeGap? (gap ++ digits) = some digits :=
  takeGap?_append hgap hyear.head_not_isBlank

/-- The reader of endings takes the endings of the grammar. -/
lemma yearEnding?_eq_some_iff : yearEnding? text = some year? ↔ IsEnding year? text := by
  constructor
  · intro h
    unfold yearEnding? at h
    split at h
    · cases h
      exact .nothing
    · split at h
      · cases h
      · next htakeGap =>
        obtain ⟨⟨gap, hgap, htext⟩, -⟩ := takeGap?_eq_some_iff.mp htakeGap
        split at h
        · next places htake =>
          split at h
          · next hlength =>
            cases h
            obtain ⟨digits, rfl, hdigits, rfl, -⟩ := takeDigits_eq_iff.mp htake
            rw [length_placesOf hdigits] at hlength
            rw [List.append_nil] at htext
            have hyear : IsNumber _ digits := ⟨hdigits, rfl⟩
            split at htext
            · next hcomma =>
              obtain ⟨rest, rfl⟩ : ∃ rest, text = .char ',' :: rest :=
                List.head?_eq_some_iff.mp hcomma
              obtain rfl : rest = gap ++ digits := htext
              exact .year (.inr rfl) hgap hyear hlength
            · rw [htext]
              exact .year (.inl rfl) hgap hyear hlength
          · cases h
        · cases h
  · rintro (_ | ⟨hcomma, hgap, hyear, hlength⟩)
    · rfl
    · next comma gap digits y =>
      have hdrop : (if (comma ++ (gap ++ digits)).head? = some (.char ',') then
          (comma ++ (gap ++ digits)).drop 1 else comma ++ (gap ++ digits)) = gap ++ digits := by
        rcases hcomma with rfl | rfl
        · rw [List.nil_append, if_neg]
          intro hhead
          exact absurd (hgap.head_isBlank digits ',' hhead) (by decide)
        · rfl
      have htake := takeDigits_eq_iff.mpr
        ⟨digits, (List.append_nil digits).symm, hyear.digits, rfl, nofun⟩
      unfold yearEnding?
      split
      · next hnil => simp [hgap.ne_nil] at hnil
      · rw [hdrop, takeGap?_year hgap hyear]
        dsimp only
        rw [htake]
        dsimp only
        rw [if_pos ((length_placesOf hyear.digits).trans hlength), hyear.value]

/-- A text that begins with a letter is read with the month in front. -/
lemma isSpelling_of_takeLetters {letters : List CodePoint}
    (hletters : takeLetters text = (letters, rest))
    (hne : letters ≠ []) (h : spelling? text = some (word, day, year?)) :
    IsSpelling word day year? text := by
  obtain ⟨c, letters, rfl⟩ := List.exists_cons_of_ne_nil hne
  obtain ⟨rfl, hword, -⟩ := takeLetters_eq_iff.mp hletters
  unfold spelling? at h
  rw [hletters] at h
  dsimp only at h
  split at h
  · next hrest =>
    obtain ⟨after, htakeGap, htakeDay⟩ := Option.bind_eq_some_iff.mp hrest
    obtain ⟨⟨gap, hgap, rfl⟩, -⟩ := takeGap?_eq_some_iff.mp htakeGap
    obtain ⟨⟨digits, hday, rfl⟩, -⟩ := takeDayNumber?_eq_some_iff.mp htakeDay
    obtain ⟨year?, hending, heq⟩ := Option.map_eq_some_iff.mp h
    cases heq
    exact .monthFirst ⟨hne, hword⟩ hgap hday (yearEnding?_eq_some_iff.mp hending)
  · cases h

/-- Any other text is read with the day in front. -/
lemma isSpelling_of_takeLetters_nil (hletters : takeLetters text = ([], rest))
    (h : spelling? text = some (word, day, year?)) : IsSpelling word day year? text := by
  unfold spelling? at h
  rw [hletters] at h
  dsimp only at h
  split at h
  · cases h
  · next htakeDay =>
    obtain ⟨⟨digits, hday, rfl⟩, -⟩ := takeDayNumber?_eq_some_iff.mp htakeDay
    split at h
    · next hrest =>
      obtain ⟨after, htakeGap, htakeWord⟩ := Option.map_eq_some_iff.mp hrest
      obtain ⟨⟨gap, hgap, rfl⟩, -⟩ := takeGap?_eq_some_iff.mp htakeGap
      obtain ⟨rfl, hword, -⟩ := takeLetters_eq_iff.mp htakeWord
      split at h
      · cases h
      · next hne =>
        obtain ⟨year?, hending, heq⟩ := Option.map_eq_some_iff.mp h
        cases heq
        have hne : word ≠ [] := by simpa using hne
        exact .dayFirst ⟨hne, hword⟩ hgap hday (yearEnding?_eq_some_iff.mp hending)
    · cases h

section Spelled

variable {gap digits ending : List CodePoint} (hword : IsWord word) (hgap : IsGap gap)
  (hday : IsDayNumber day digits) (hending : IsEnding year? ending)

include hword hgap hday hending

/-- A spelling with the month in front is read. -/
lemma spelling?_monthFirst :
    spelling? (word ++ (gap ++ (digits ++ ending))) = some (word, day, year?) := by
  have hletters : takeLetters (word ++ (gap ++ (digits ++ ending))) =
      (word, gap ++ (digits ++ ending)) :=
    takeLetters_eq_iff.mpr ⟨rfl, hword.letters, fun c hc =>
      not_isAlpha_of_isBlank (hgap.head_isBlank _ c hc)⟩
  have hrest : takeGap? (gap ++ (digits ++ ending)) = some (digits ++ ending) :=
    takeGap?_append hgap fun c hc =>
      not_isBlank_of_isDecimalDigit (hday.head_isDecimalDigit _ c hc)
  have hnumber : takeDayNumber? (digits ++ ending) = some (day, ending) :=
    takeDayNumber?_eq_some_iff.mpr
      ⟨⟨digits, hday, rfl⟩, fun c hc => (hending.head_not_isDecimalDigit c hc).1⟩
  have hyear : yearEnding? ending = some year? := yearEnding?_eq_some_iff.mpr hending
  obtain ⟨c, word, rfl⟩ := List.exists_cons_of_ne_nil hword.ne_nil
  unfold spelling?
  rw [hletters]
  dsimp only
  rw [hrest, Option.bind_some, hnumber]
  dsimp only
  rw [hyear, Option.map_some]

/-- A spelling with the day in front is read. -/
lemma spelling?_dayFirst :
    spelling? (digits ++ (gap ++ (word ++ ending))) = some (word, day, year?) := by
  have hnoLetters : takeLetters (digits ++ (gap ++ (word ++ ending))) =
      ([], digits ++ (gap ++ (word ++ ending))) :=
    takeLetters_eq_iff.mpr ⟨rfl, nofun, fun c hc =>
      not_isAlpha_of_isDecimalDigit (hday.head_isDecimalDigit _ c hc)⟩
  have hnumber : takeDayNumber? (digits ++ (gap ++ (word ++ ending))) =
      some (day, gap ++ (word ++ ending)) :=
    takeDayNumber?_eq_some_iff.mpr ⟨⟨digits, hday, rfl⟩, fun c hc =>
      not_isDecimalDigit_of_isBlank (hgap.head_isBlank _ c hc)⟩
  have hrest : takeGap? (gap ++ (word ++ ending)) = some (word ++ ending) :=
    takeGap?_append hgap fun c hc =>
      not_isBlank_of_isAlpha (hword.head_isAlpha _ c hc)
  have hletters : takeLetters (word ++ ending) = (word, ending) :=
    takeLetters_eq_iff.mpr
      ⟨rfl, hword.letters, fun c hc => (hending.head_not_isDecimalDigit c hc).2⟩
  have hyear : yearEnding? ending = some year? := yearEnding?_eq_some_iff.mpr hending
  have hne : word.isEmpty = false := List.isEmpty_eq_false_iff.mpr hword.ne_nil
  unfold spelling?
  rw [hnoLetters]
  dsimp only
  rw [hnumber]
  dsimp only
  rw [hrest, Option.map_some, hletters]
  dsimp only
  rw [hne, hyear, if_neg Bool.false_ne_true, Option.map_some]

end Spelled

/-- The reader takes the texts of the grammar and no others. -/
lemma spelling?_eq_some_iff :
    spelling? text = some (word, day, year?) ↔ IsSpelling word day year? text := by
  constructor
  · intro h
    obtain ⟨letters, rest, hletters⟩ : ∃ letters rest, takeLetters text = (letters, rest) :=
      ⟨_, _, rfl⟩
    by_cases hne : letters = []
    · exact isSpelling_of_takeLetters_nil (hne ▸ hletters) h
    · exact isSpelling_of_takeLetters hletters hne h
  · rintro (⟨hword, hgap, hday, hending⟩ | ⟨hword, hgap, hday, hending⟩)
    · exact spelling?_monthFirst hword hgap hday hending
    · exact spelling?_dayFirst hword hgap hday hending

/-! ### Months -/

/-- Whether a word is one of the names of a month, in any letter case. -/
def NamesMonth (word : List CodePoint) (month : Nat) : Prop :=
  ∃ name, (name, month) ∈ monthWords ∧ word.map asciiLower = name.toList

/-- The words for months are the names of months and their short forms. -/
lemma monthOfWord?_eq_some_iff {month : Nat} :
    monthOfWord? word = some month ↔ NamesMonth word month := by
  unfold monthOfWord?
  constructor
  · intro h
    obtain ⟨⟨name, n⟩, hfind, rfl⟩ := Option.map_eq_some_iff.mp h
    have hname := List.find?_some hfind
    exact ⟨name, List.mem_of_find?_eq_some hfind, (beq_iff_eq.mp hname).symm⟩
  · rintro ⟨name, hmem, hname⟩
    have hfirst : ∀ p ∈ monthWords,
        monthWords.find? (fun q => q.1.toList == p.1.toList) = some p := by decide
    rw [hname, hfirst _ hmem, Option.map_some]

lemma NamesMonth.isWord {month : Nat} (h : NamesMonth word month) : IsWord word := by
  obtain ⟨name, hmem, hname⟩ := h
  have hnames : ∀ p ∈ monthWords, p.1.toList ≠ [] ∧ p.1.toList.all CodePoint.isLower = true := by
    decide
  obtain ⟨hne, hletters⟩ := hnames _ hmem
  rw [← hname] at hne hletters
  refine ⟨by simpa using hne, fun c hc => isAlpha_of_asciiLower ?_⟩
  exact List.all_eq_true.mp hletters _ (List.mem_map_of_mem hc)

/-- The number of a month has two digits. -/
lemma NamesMonth.month_lt {month : Nat} (h : NamesMonth word month) : month < 100 := by
  obtain ⟨name, hmem, -⟩ := h
  have hmonths : ∀ p ∈ monthWords, p.2 < 100 := by decide
  exact hmonths _ hmem

/-! ### Keys -/

/-- The key of a day. -/
def keyText (year : Int) (month day : Nat) : List CodePoint :=
  yearText year ++ .char '-' :: decimalPadded 2 month ++ .char '-' :: decimalPadded 2 day

@[simp] lemma yearText_natCast (year : Nat) : yearText year = decimalPadded 4 year := by
  rw [yearText, if_neg (by omega), Int.toNat_natCast]

/-- A key consists of rows of digits that are four, two and two long. -/
lemma isDayKey_iff : isDayKey text = true ↔ ∃ year month day : List CodePoint,
    text = year ++ .char '-' :: month ++ .char '-' :: day ∧
      (year.length = 4 ∧ month.length = 2 ∧ day.length = 2) ∧
      ∀ c ∈ year ++ month ++ day, isDecimalDigit c = true := by
  constructor
  · intro h
    unfold isDayKey at h
    split at h
    · next a b c d e f g h' =>
      exact ⟨[a, b, c, d], [e, f], [g, h'], rfl, ⟨rfl, rfl, rfl⟩, List.all_eq_true.mp h⟩
    · cases h
  · rintro ⟨year, month, day, rfl, ⟨hyear, hmonth, hday⟩, hdigits⟩
    obtain ⟨a, b, c, d, rfl⟩ := List.length_eq_four.mp hyear
    obtain ⟨e, f, rfl⟩ := List.length_eq_two.mp hmonth
    obtain ⟨g, h, rfl⟩ := List.length_eq_two.mp hday
    exact List.all_eq_true.mpr hdigits

lemma not_isBlank_of_isDayKey (h : isDayKey text = true) : ∀ c ∈ text, isBlank c = false := by
  obtain ⟨year, month, day, rfl, -, hdigits⟩ := isDayKey_iff.mp h
  intro c hc
  have hc : c ∈ year ++ month ++ day ∨ c = '-' := by
    simp only [List.mem_append, List.mem_cons] at hc ⊢
    tauto
  rcases hc with hc | rfl
  · exact not_isBlank_of_isDecimalDigit (hdigits c hc)
  · decide

/-- A day in digits has the form of a key. -/
lemma isDayKey_keyText {year month : Nat} (hyear : year < 10000) (hmonth : month < 100)
    (hday : day < 100) : isDayKey (keyText year month day) = true := by
  rw [keyText, yearText_natCast]
  refine isDayKey_iff.mpr ⟨_, _, _, rfl, ⟨?_, ?_, ?_⟩, ?_⟩
  · exact length_decimalPadded (by decide) (by simpa using hyear)
  · exact length_decimalPadded (by decide) (by simpa using hmonth)
  · exact length_decimalPadded (by decide) (by simpa using hday)
  · have hdigits :
        IsDigits (decimalPadded 4 year ++ decimalPadded 2 month ++ decimalPadded 2 day) := by
      simp
    intro c hc
    rw [isDecimalDigit, digitValue?_of_isDigit (hdigits c hc)]
    rfl

lemma trim_of_isDayKey (h : isDayKey text = true) : trim text = text :=
  trim_eq_self (fun c hc => not_isBlank_of_isDayKey h c (List.mem_of_mem_head? hc))
    (fun c hc => not_isBlank_of_isDayKey h c (List.mem_of_mem_getLast? hc))

/-- A text in the form of a key is its own key. -/
lemma dayKey?_of_isDayKey (h : isDayKey (trim text) = true) (fallback : Int) :
    dayKey? fallback text = some (trim text) := by
  have hne : (trim text).isEmpty = false := by
    rw [List.isEmpty_eq_false_iff]
    intro hnil
    rw [hnil] at h
    cases h
  rw [dayKey?, hne, h]
  rfl

/-- A spelling has a gap, so it has not the form of a key. -/
lemma IsSpelling.exists_isBlank (h : IsSpelling word day year? text) :
    ∃ c ∈ text, isBlank c = true := by
  cases h with
  | monthFirst hword hgap hday hending =>
    obtain ⟨c, gap, rfl⟩ := List.exists_cons_of_ne_nil hgap.ne_nil
    exact ⟨c, by simp, hgap.blank c (by simp)⟩
  | dayFirst hword hgap hday hending =>
    obtain ⟨c, gap, rfl⟩ := List.exists_cons_of_ne_nil hgap.ne_nil
    exact ⟨c, by simp, hgap.blank c (by simp)⟩

/-- A text has a key when it is one or spells a day. -/
lemma dayKey?_eq_some_iff {fallback : Int} {key : List CodePoint} :
    dayKey? fallback text = some key ↔
      isDayKey (trim text) = true ∧ key = trim text ∨
      ∃ word day year? month, IsSpelling word day year? (trim text) ∧ NamesMonth word month ∧
        (1 ≤ day ∧ day ≤ 31) ∧ key = keyText (year?.elim fallback (↑)) month day := by
  constructor
  · intro h
    unfold dayKey? at h
    dsimp only at h
    split at h
    · cases h
    · split at h
      · next hkey => exact .inl ⟨hkey, (Option.some.inj h).symm⟩
      · split at h
        · cases h
        · next word day year? hspelling =>
          split at h
          · cases h
          · next month hmonth =>
            split at h
            · next hday =>
              refine .inr ⟨word, day, year?, month, spelling?_eq_some_iff.mp hspelling,
                monthOfWord?_eq_some_iff.mp hmonth, hday, ?_⟩
              cases year? <;> exact (Option.some.inj h).symm
            · cases h
  · rintro (⟨hkey, rfl⟩ | ⟨word, day, year?, month, hspelling, hmonth, hday, rfl⟩)
    · exact dayKey?_of_isDayKey hkey fallback
    -- A spelling has a gap, so the text is neither empty nor a key and the reader goes on.
    · have hnotKey : isDayKey (trim text) = false := by
        obtain ⟨c, hc, hblank⟩ := hspelling.exists_isBlank
        rw [← Bool.not_eq_true]
        intro hkey
        rw [not_isBlank_of_isDayKey hkey c hc] at hblank
        cases hblank
      have hne : (trim text).isEmpty = false := by
        obtain ⟨c, hc, -⟩ := hspelling.exists_isBlank
        exact List.isEmpty_eq_false_iff.mpr (List.ne_nil_of_mem hc)
      unfold dayKey?
      dsimp only
      rw [hne, hnotKey, spelling?_eq_some_iff.mpr hspelling]
      dsimp only
      rw [monthOfWord?_eq_some_iff.mpr hmonth]
      dsimp only
      rw [if_pos hday]
      cases year? <;> rfl

/-! ### All spellings of a day -/

lemma IsEnding.getLast_not_isBlank (h : IsEnding year? text) :
    ∀ c ∈ text.getLast?, isBlank c = false := by
  cases h with
  | nothing => exact nofun
  | year hcomma hgap hyear hlength =>
    intro c hc
    have hne : _ ≠ [] := List.ne_nil_of_length_eq_add_one hlength
    rw [← List.append_assoc, List.getLast?_append_of_ne_nil _ hne] at hc
    exact not_isBlank_of_isDecimalDigit (hyear.digits c (List.mem_of_mem_getLast? hc))

/-- Nothing is trimmed off a word or number in front and an ending behind another one. -/
lemma trim_joined {first gap second ending : List CodePoint} (hfirst : first ≠ [])
    (hfirst' : ∀ c ∈ first, isBlank c = false) (hsecond : second ≠ [])
    (hsecond' : ∀ c ∈ second, isBlank c = false) (hending : IsEnding year? ending) :
    trim (first ++ (gap ++ (second ++ ending))) = first ++ (gap ++ (second ++ ending)) := by
  apply trim_eq_self
  · intro c hc
    rw [List.head?_append_of_ne_nil _ hfirst] at hc
    exact hfirst' c (List.mem_of_mem_head? hc)
  · intro c hc
    have hne : second ++ ending ≠ [] := List.append_ne_nil_of_left_ne_nil hsecond ending
    rw [← List.append_assoc, List.getLast?_append_of_ne_nil _ hne, List.getLast?_append] at hc
    cases hlast : ending.getLast? with
    | none =>
      rw [hlast, Option.none_or] at hc
      exact hsecond' c (List.mem_of_mem_getLast? hc)
    | some d =>
      rw [hlast, Option.some_or] at hc
      cases hc
      exact hending.getLast_not_isBlank c hlast

/-- A spelling starts with a letter or digit and ends in one. -/
lemma IsSpelling.trim_eq (h : IsSpelling word day year? text) : trim text = text := by
  cases h with
  | monthFirst hword hgap hday hending =>
    exact trim_joined hword.ne_nil (fun c hc => not_isBlank_of_isAlpha (hword.letters c hc))
      hday.ne_nil (fun c hc => not_isBlank_of_isDecimalDigit (hday.digits c hc)) hending
  | dayFirst hword hgap hday hending =>
    exact trim_joined hday.ne_nil (fun c hc => not_isBlank_of_isDecimalDigit (hday.digits c hc))
      hword.ne_nil (fun c hc => not_isBlank_of_isAlpha (hword.letters c hc)) hending

/-- The year of a spelling has four digits. -/
lemma IsSpelling.year_lt {year : Nat} (h : IsSpelling word day (some year) text) :
    year < 10000 := by
  have hending : ∀ {ending}, IsEnding (some year) ending → year < 10000 := by
    rintro _ (_ | ⟨-, -, hyear, hlength⟩)
    have hlt := hyear.lt
    rwa [hlength] at hlt
  cases h with
  | monthFirst hword hgap hday h => exact hending h
  | dayFirst hword hgap hday h => exact hending h

/-- Whether a text names a day: by its key, or by a spelling with a name of the month. The year is
left out where `year?` is none. -/
inductive NamesDay (month day : Nat) : Option Nat → List CodePoint → Prop
  /-- `2026-05-29` -/
  | key (year : Nat) : NamesDay month day (some year) (keyText year month day)
  /-- `May 29, 2026` or `29 May` -/
  | spelling {word text : List CodePoint} {year? : Option Nat} (hword : NamesMonth word month)
    (h : IsSpelling word day year? text) : NamesDay month day year? text

/-- Wherever a day is named, with blanks around it, it has its one key, a missing year being the
fallback; and a key is its own key. -/
theorem dayKey?_meets :
    (∀ (year month day : Nat) (year? : Option Nat) (fallback : Int)
      (before text after : List CodePoint),
      year < 10000 → month ≤ 12 → 1 ≤ day ∧ day ≤ 31 → year?.elim fallback (↑) = (year : Int) →
      NamesDay month day year? text → (∀ c ∈ before ++ after, isBlank c = true) →
      dayKey? fallback (before ++ text ++ after) = some (keyText year month day)) ∧
    ∀ (fallback fallback' : Int) (text key : List CodePoint), 1 ≤ fallback → fallback ≤ 9999 →
      dayKey? fallback text = some key → dayKey? fallback' key = some key := by
  constructor
  · intro year month day year? fallback before text after hyear hmonth hday hsome hnames hblank
    have htrim : trim (before ++ text ++ after) = trim text := by
      rw [List.append_assoc, trim_blanks_append fun c hc => hblank c (List.mem_append_left _ hc),
        trim_append_blanks fun c hc => hblank c (List.mem_append_right _ hc)]
    rw [dayKey?_eq_some_iff, htrim]
    cases hnames with
    | key year' =>
      obtain rfl : year' = year := by simpa using hsome
      have hkey := isDayKey_keyText hyear (show month < 100 by omega) (show day < 100 by omega)
      rw [trim_of_isDayKey hkey]
      exact .inl ⟨hkey, rfl⟩
    | spelling hword h =>
      rw [h.trim_eq]
      exact .inr ⟨_, day, year?, month, h, hword, hday, by rw [hsome]⟩
  · intro fallback fallback' text key hlow hhigh hkey
    have hshape : isDayKey key = true := by
      rcases dayKey?_eq_some_iff.mp hkey with
        ⟨hshape, rfl⟩ | ⟨word, day, year?, month, hspelling, hmonth, hday, rfl⟩
      · exact hshape
      -- Written years have four digits, and so has the fallback year.
      · obtain ⟨year, hyear, hlt⟩ : ∃ year : Nat,
            year?.elim fallback (↑) = (year : Int) ∧ year < 10000 := by
          cases year? with
          | none =>
            have hnonneg : 0 ≤ fallback := by omega
            exact ⟨fallback.toNat, (Int.toNat_of_nonneg hnonneg).symm, by omega⟩
          | some year => exact ⟨year, rfl, hspelling.year_lt⟩
        rw [hyear]
        exact isDayKey_keyText hlt hmonth.month_lt (by omega)
    have htrim := trim_of_isDayKey hshape
    rw [dayKey?_of_isDayKey (htrim.symm ▸ hshape), htrim]

/-- Two spellings of the third of September, and the key that both of them have. -/
theorem dayKey?_meets_september :
    dayKey? 1 " sEPT\u00a03,\t2026\n".codePoints = some "2026-09-03".codePoints ∧
    dayKey? 2026 "03 September\u2003".codePoints = some "2026-09-03".codePoints ∧
    dayKey? 1 "2026-09-03".codePoints = some "2026-09-03".codePoints := by
  obtain ⟨hnamed, hagain⟩ := dayKey?_meets
  have hsept : NamesMonth "sEPT".codePoints 9 := ⟨"sept", by decide, by decide⟩
  have hseptember : NamesMonth "September".codePoints 9 := ⟨"september", by decide, by decide⟩
  have hdated :=
      hnamed 2026 9 3 (some 2026) 1 " ".codePoints "sEPT\u00a03,\t2026".codePoints "\n".codePoints
    (by decide) (by decide) (by decide) rfl
    (.spelling hsept (spelling?_eq_some_iff.mp (by decide))) (List.all_eq_true.mp rfl)
  have hyearless := hnamed 2026 9 3 none 2026 [] "03 September".codePoints "\u2003".codePoints
    (by decide) (by decide) (by decide) rfl
    (.spelling hseptember (spelling?_eq_some_iff.mp (by decide))) (List.all_eq_true.mp rfl)
  exact ⟨hdated, hyearless, hagain 2026 1 _ _ (by decide) (by decide) hyearless⟩

end TripProposal.Calendar
