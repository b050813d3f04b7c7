import TripProposal.Calendar.Written
import TripProposal.Proofs.Calendar.DayKey

/-!
# Dates that are read in two ways

Dates are read by form when they are shown and by spelling when days are matched. Where both
readers understand a text they agree on the day: a written form with a name of a month is a
spelling, an ISO date that is a key has itself as its text, and no other form has a key.
-/

namespace TripProposal.Calendar

open Text Number

variable {text rest : List CodePoint} {piece : Piece} {form : List Piece} {parts parts' : DateParts}

/-! ### Pieces -/

lemma isNumber_singleton {c : CodePoint} {d : Nat} (h : digitValue? c = some d) :
    IsNumber d [c] := by
  have hplaces : placesOf [c] = [d] := List.filterMap_cons_some h
  refine ⟨?_, by rw [hplaces]; simp [valueOfDigits]⟩
  simp [isDecimalDigit, h]

lemma isNumber_pair {a b : CodePoint} {d e : Nat} (ha : digitValue? a = some d)
    (hb : digitValue? b = some e) : IsNumber (10 * d + e) [a, b] := by
  have hplaces : placesOf [a, b] = [d, e] := by simp [placesOf, ha, hb]
  refine ⟨?_, by rw [hplaces]; simp [valueOfDigits]⟩
  simp [isDecimalDigit, ha, hb]

/-- The digits that a day may end in are worth what their code points say. -/
lemma digitValue?_of_le {c : CodePoint} (h : '1' ≤ c ∧ c ≤ '9') :
    digitValue? c = some (c.toNat - 48) := by
  have hlow : 49 ≤ c.toNat := h.1
  have hhigh : c.toNat ≤ 57 := h.2
  rw [digitValue?, if_pos (by omega), if_pos (by omega)]

/-- One digit of a day is taken from the front. -/
lemma takeDayDigit?_eq_some {day : Nat} (h : takeDayDigit? text = some (day, rest)) :
    ∃ c, text = c :: rest ∧ digitValue? c = some day := by
  unfold takeDayDigit? at h
  split at h
  · next c rest' =>
    split at h
    · next hc =>
      cases h
      exact ⟨c, rfl, digitValue?_of_le hc⟩
    · cases h
  · cases h

lemma isDayNumber_singleton {c : CodePoint} {day : Nat} (h : digitValue? c = some day) :
    IsDayNumber day [c] :=
  ⟨isNumber_singleton h, by simp, by simp⟩

lemma isDayNumber_pair {a b : CodePoint} {d e : Nat} (ha : digitValue? a = some d)
    (hb : digitValue? b = some e) : IsDayNumber (10 * d + e) [a, b] :=
  ⟨isNumber_pair ha hb, by simp, by simp⟩

/-- Where no space stands in for a zero, the number of a day is one or two digits. -/
lemma takeDay?_eq_some {day : Nat} (hhead : ∀ c ∈ text.head?, isBlank c = false)
    (h : takeDay? text = some (day, rest)) :
    ∃ digits, IsDayNumber day digits ∧ text = digits ++ rest := by
  -- Where two digits do not fit, one is tried.
  have hsingle : takeDayDigit? text = some (day, rest) →
      ∃ digits, IsDayNumber day digits ∧ text = digits ++ rest := by
    intro hdigit
    obtain ⟨c, htext, hc⟩ := takeDayDigit?_eq_some hdigit
    exact ⟨[c], isDayNumber_singleton hc, htext⟩
  unfold takeDay? at h
  split at h
  · cases h
    exact ⟨['3', '0'], isDayNumber_pair (d := 3) (e := 0) rfl rfl, rfl⟩
  · cases h
    exact ⟨['3', '1'], isDayNumber_pair (d := 3) (e := 1) rfl rfl, rfl⟩
  · exact absurd (hhead ' ' rfl) (by decide)
  · obtain ⟨c, rfl, hc⟩ := takeDayDigit?_eq_some h
    have hday := isDayNumber_pair (a := '0') (d := 0) rfl hc
    rw [Nat.mul_zero, Nat.zero_add] at hday
    exact ⟨['0', c], hday, rfl⟩
  · next a b after _ _ _ _ =>
    split at h
    · next e hsecond =>
      cases h
      split at hsecond
      · next hfirst =>
        have ha : digitValue? a = some (a.toNat - 48) := by
          rcases hfirst with rfl | rfl <;> rfl
        exact ⟨[a, b], isDayNumber_pair ha hsecond, rfl⟩
      · cases hsecond
    · exact hsingle h
  · exact hsingle h

/-- As many digits are taken as the year has. -/
lemma takeYear?_eq_some {n acc year : Nat} (h : takeYear? n acc text = some (year, rest)) :
    ∃ digits, text = digits ++ rest ∧ digits.length = n ∧
      (∀ c ∈ digits, isDecimalDigit c = true) ∧ valueOfDigits acc (placesOf digits) = year := by
  induction n generalizing acc text with
  | zero =>
    cases h
    exact ⟨[], rfl, rfl, nofun, rfl⟩
  | succ n ih =>
    cases text with
    | nil => cases h
    | cons c text =>
      unfold takeYear? at h
      split at h
      · next d hd =>
        obtain ⟨digits, rfl, hlength, hdigits, hvalue⟩ := ih h
        refine ⟨c :: digits, rfl, congrArg Nat.succ hlength, ?_, ?_⟩
        · exact List.forall_mem_cons.mpr ⟨by simp [isDecimalDigit, hd], hdigits⟩
        · rw [placesOf, List.filterMap_cons_some hd]
          exact hvalue
      · cases h

/-- A name is taken in any letter case, with its position among the names. -/
lemma takeName?_eq_some {names : List Text} {index n : Nat}
    (h : takeName? names index text = some (n, rest)) :
    ∃ word name, text = word ++ rest ∧ (name, n) ∈ names.zipIdx index ∧
      word.map asciiLower = name.toList.map asciiLower := by
  induction names generalizing index with
  | nil => cases h
  | cons name names ih =>
    unfold takeName? at h
    dsimp only at h
    split at h
    · next hprefix =>
      cases h
      rw [List.isPrefixOf_iff_prefix, List.prefix_iff_eq_take] at hprefix
      refine ⟨text.take (name.toList.map asciiLower).length, name,
        (List.take_append_drop _ _).symm, by simp, ?_⟩
      rw [List.map_take, ← hprefix]
    · obtain ⟨word, name', htext, hmem, hname⟩ := ih h
      exact ⟨word, name', htext, by simp [hmem], hname⟩

/-- Names that are known for their month are spellings of it. -/
lemma namesMonth_of_takeName? {names : List Text} {month : Nat}
    (hnames : ∀ p ∈ names.zipIdx 1,
      ∃ q ∈ monthWords, q.2 = p.2 ∧ q.1.toList = p.1.toList.map asciiLower)
    (h : takeName? names 1 text = some (month, rest)) :
    ∃ word, NamesMonth word month ∧ text = word ++ rest := by
  obtain ⟨word, name, htext, hmem, hname⟩ := takeName?_eq_some h
  obtain ⟨⟨known, _⟩, hknown, rfl, hletters⟩ := hnames _ hmem
  exact ⟨word, ⟨known, hknown, hname.trans hletters.symm⟩, htext⟩

/-- The pieces that are the name of a month. -/
def Piece.IsName (piece : Piece) : Prop := piece = .monthName ∨ piece = .monthShort

/-- A piece for the name of a month takes one of its names. -/
lemma take?_name (hpiece : piece.IsName) (h : piece.take? parts text = some (parts', rest)) :
    ∃ word month, NamesMonth word month ∧ text = word ++ rest ∧
      parts' = { parts with month := month } := by
  rcases hpiece with rfl | rfl
  · obtain ⟨⟨month, after⟩, htake, heq⟩ := Option.map_eq_some_iff.mp h
    cases heq
    obtain ⟨word, hword, htext⟩ := namesMonth_of_takeName? (by decide) htake
    exact ⟨word, month, hword, htext, rfl⟩
  · obtain ⟨⟨month, after⟩, htake, heq⟩ := Option.map_eq_some_iff.mp h
    cases heq
    obtain ⟨word, hword, htext⟩ := namesMonth_of_takeName? (by decide) htake
    exact ⟨word, month, hword, htext, rfl⟩

/-- A piece for the day takes one or two digits, unless a blank stands in front. -/
lemma take?_day (hhead : ∀ c ∈ text.head?, isBlank c = false)
    (h : Piece.day.take? parts text = some (parts', rest)) :
    ∃ digits day, IsDayNumber day digits ∧ text = digits ++ rest ∧
      parts' = { parts with day := day } := by
  obtain ⟨⟨day, after⟩, htake, heq⟩ := Option.map_eq_some_iff.mp h
  cases heq
  obtain ⟨digits, hday, htext⟩ := takeDay?_eq_some hhead htake
  exact ⟨digits, day, hday, htext, rfl⟩

/-- A piece for the year takes four digits. -/
lemma take?_year (h : Piece.year.take? parts text = some (parts', rest)) :
    ∃ digits year, IsNumber year digits ∧ digits.length = 4 ∧ text = digits ++ rest ∧
      parts' = { parts with year := year } := by
  obtain ⟨⟨year, after⟩, htake, heq⟩ := Option.map_eq_some_iff.mp h
  cases heq
  obtain ⟨digits, htext, hlength, hdigits, hvalue⟩ := takeYear?_eq_some htake
  exact ⟨digits, year, ⟨hdigits, hvalue⟩, hlength, htext, rfl⟩

/-- A piece for a gap takes all blanks. -/
lemma take?_gap (h : Piece.gap.take? parts text = some (parts', rest)) :
    (∃ gap, IsGap gap ∧ text = gap ++ rest) ∧ (∀ c ∈ rest.head?, isBlank c = false) ∧
      parts' = parts := by
  obtain ⟨after, htake, heq⟩ := Option.map_eq_some_iff.mp h
  cases heq
  obtain ⟨hgap, hhead⟩ := takeGap?_eq_some_iff.mp htake
  exact ⟨hgap, hhead, rfl⟩

/-- A piece for a mark takes this mark. -/
lemma take?_mark {m : CodePoint} (h : (Piece.mark m).take? parts text = some (parts', rest)) :
    text = m :: rest ∧ parts' = parts := by
  unfold Piece.take? at h
  dsimp only at h
  split at h
  · split at h
    · next hm =>
      cases h
      exact ⟨by rw [hm], rfl⟩
    · cases h
  · cases h

/-! ### Forms -/

variable {result : DateParts}

lemma takeAll?_cons (h : takeAll? (piece :: form) parts text = some result) :
    ∃ parts' rest, piece.take? parts text = some (parts', rest) ∧
      takeAll? form parts' rest = some result := by
  unfold takeAll? at h
  split at h
  · next parts' rest htake => exact ⟨parts', rest, htake, h⟩
  · cases h

lemma takeAll?_nil (h : takeAll? [] parts text = some result) : text = [] ∧ result = parts := by
  cases text with
  | nil => exact ⟨rfl, (Option.some.inj h).symm⟩
  | cons c text => cases h

/-- A form that ends in a year ends in a gap and four digits. -/
lemma year_of_takeAll? (h : takeAll? [.gap, .year] parts text = some result) :
    ∃ gap digits year, IsGap gap ∧ IsNumber year digits ∧ digits.length = 4 ∧
      text = gap ++ digits ∧ result = { parts with year := year } := by
  obtain ⟨_, _, htakeGap, hrest⟩ := takeAll?_cons h
  obtain ⟨⟨gap, hgap, rfl⟩, -, rfl⟩ := take?_gap htakeGap
  obtain ⟨_, _, htakeYear, hend⟩ := takeAll?_cons hrest
  obtain ⟨digits, year, hyear, hlength, rfl, rfl⟩ := take?_year htakeYear
  obtain ⟨rfl, rfl⟩ := takeAll?_nil hend
  exact ⟨gap, digits, year, hgap, hyear, hlength, by rw [List.append_nil], rfl⟩

/-- What stands behind day and month in a written form is an ending with a year. -/
lemma isEnding_of_takeAll? (hform : form = [.gap, .year] ∨ form = [.mark ',', .gap, .year])
    (h : takeAll? form parts text = some result) :
    ∃ year, IsEnding (some year) text ∧ result = { parts with year := year } := by
  rcases hform with rfl | rfl
  · obtain ⟨gap, digits, year, hgap, hyear, hlength, rfl, rfl⟩ := year_of_takeAll? h
    exact ⟨year, .year (.inl rfl) hgap hyear hlength, rfl⟩
  · obtain ⟨_, _, htakeMark, hrest⟩ := takeAll?_cons h
    obtain ⟨rfl, rfl⟩ := take?_mark htakeMark
    obtain ⟨gap, digits, year, hgap, hyear, hlength, rfl, rfl⟩ := year_of_takeAll? hrest
    exact ⟨year, .year (.inr rfl) hgap hyear hlength, rfl⟩

/-- The forms in which a name stands for the month. -/
inductive IsNamed : List Piece → Prop
  /-- `October 15, 2026` -/
  | monthFirst {piece : Piece} {ending : List Piece} (hpiece : piece.IsName)
    (hending : ending = [.gap, .year] ∨ ending = [.mark ',', .gap, .year]) :
    IsNamed (piece :: .gap :: .day :: ending)
  /-- `15 October 2026` -/
  | dayFirst {piece : Piece} (hpiece : piece.IsName) :
    IsNamed [.day, .gap, piece, .gap, .year]

/-- A written form with a name for the month is a spelling. -/
lemma isSpelling_of_takeAll? (hform : IsNamed form) (hhead : ∀ c ∈ text.head?, isBlank c = false)
    (h : takeAll? form {} text = some result) :
    ∃ word, NamesMonth word result.month ∧ IsSpelling word result.day (some result.year) text := by
  cases hform with
  | monthFirst hpiece hending =>
    obtain ⟨_, _, htakeName, hrest⟩ := takeAll?_cons h
    obtain ⟨word, month, hword, rfl, rfl⟩ := take?_name hpiece htakeName
    obtain ⟨_, _, htakeGap, hrest⟩ := takeAll?_cons hrest
    obtain ⟨⟨gap, hgap, rfl⟩, hbehind, rfl⟩ := take?_gap htakeGap
    obtain ⟨_, _, htakeDay, hrest⟩ := takeAll?_cons hrest
    obtain ⟨digits, day, hday, rfl, rfl⟩ := take?_day hbehind htakeDay
    obtain ⟨year, hyear, rfl⟩ := isEnding_of_takeAll? hending hrest
    exact ⟨word, hword, .monthFirst hword.isWord hgap hday hyear⟩
  | dayFirst hpiece =>
    obtain ⟨_, _, htakeDay, hrest⟩ := takeAll?_cons h
    obtain ⟨digits, day, hday, rfl, rfl⟩ := take?_day hhead htakeDay
    obtain ⟨_, _, htakeGap, hrest⟩ := takeAll?_cons hrest
    obtain ⟨⟨gap, hgap, rfl⟩, -, rfl⟩ := take?_gap htakeGap
    obtain ⟨_, _, htakeName, hrest⟩ := takeAll?_cons hrest
    obtain ⟨word, month, hword, rfl, rfl⟩ := take?_name hpiece htakeName
    obtain ⟨year, hyear, rfl⟩ := isEnding_of_takeAll? (.inl rfl) hrest
    exact ⟨word, hword, .dayFirst hword.isWord hgap hday hyear⟩

lemma suffix_of_takeMonth? {month : Nat} (h : takeMonth? text = some (month, rest)) :
    rest <:+ text := by
  unfold takeMonth? at h
  split at h
  · cases h
    exact ⟨['1', '0'], rfl⟩
  · cases h
    exact ⟨['1', '1'], rfl⟩
  · cases h
    exact ⟨['1', '2'], rfl⟩
  · next d _ =>
    split at h
    · cases h
      exact ⟨['0', d], rfl⟩
    · cases h
  · next d _ _ _ _ _ =>
    split at h
    · cases h
      exact ⟨[d], rfl⟩
    · cases h
  · cases h

lemma suffix_of_takeDay? {day : Nat} (h : takeDay? text = some (day, rest)) : rest <:+ text := by
  have hdigit : ∀ {text}, takeDayDigit? text = some (day, rest) → rest <:+ text := by
    intro text htake
    obtain ⟨c, rfl, -⟩ := takeDayDigit?_eq_some htake
    exact List.suffix_cons c rest
  unfold takeDay? at h
  split at h
  · cases h
    exact ⟨['3', '0'], rfl⟩
  · cases h
    exact ⟨['3', '1'], rfl⟩
  · exact (hdigit h).trans (List.suffix_cons _ _)
  · exact (hdigit h).trans (List.suffix_cons _ _)
  · next a b _ _ _ _ _ =>
    split at h
    · cases h
      exact ⟨[a, b], rfl⟩
    · exact hdigit h
  · exact hdigit h

/-- What follows a piece is the end of the text. -/
lemma suffix_of_take? (h : piece.take? parts text = some (parts', rest)) : rest <:+ text := by
  cases piece with
  | monthName =>
    obtain ⟨word, month, -, rfl, -⟩ := take?_name (.inl rfl) h
    exact List.suffix_append word rest
  | monthShort =>
    obtain ⟨word, month, -, rfl, -⟩ := take?_name (.inr rfl) h
    exact List.suffix_append word rest
  | month =>
    obtain ⟨_, htake, heq⟩ := Option.map_eq_some_iff.mp h
    cases heq
    exact suffix_of_takeMonth? htake
  | day =>
    obtain ⟨_, htake, heq⟩ := Option.map_eq_some_iff.mp h
    cases heq
    exact suffix_of_takeDay? htake
  | year =>
    obtain ⟨digits, year, -, -, rfl, -⟩ := take?_year h
    exact List.suffix_append digits rest
  | gap =>
    obtain ⟨⟨gap, -, rfl⟩, -⟩ := take?_gap h
    exact List.suffix_append gap rest
  | mark m =>
    obtain ⟨rfl, -⟩ := take?_mark h
    exact List.suffix_cons m rest

/-- A mark of a form stands in each text that is read by it. -/
lemma mem_of_takeAll? {m : CodePoint} (hm : .mark m ∈ form)
    (h : takeAll? form parts text = some result) : m ∈ text := by
  induction form generalizing parts text with
  | nil => cases hm
  | cons piece form ih =>
    obtain ⟨parts', rest, htake, hrest⟩ := takeAll?_cons h
    cases hm with
    | head =>
      obtain ⟨rfl, -⟩ := take?_mark htake
      exact List.mem_cons_self
    | tail _ hm => exact (suffix_of_take? htake).subset (ih hm hrest)

/-- Every written form has a name for the month or slashes. -/
lemma isNamed_or_slash (h : form ∈ writtenForms) : IsNamed form ∨ .mark '/' ∈ form := by
  simp only [writtenForms, List.mem_cons, List.not_mem_nil, or_false] at h
  rcases h with rfl | rfl | rfl | rfl | rfl | rfl | rfl | rfl
  · exact .inl (.monthFirst (.inl rfl) (.inr rfl))
  · exact .inl (.monthFirst (.inr rfl) (.inr rfl))
  · exact .inl (.monthFirst (.inl rfl) (.inl rfl))
  · exact .inl (.monthFirst (.inr rfl) (.inl rfl))
  · exact .inl (.dayFirst (.inl rfl))
  · exact .inl (.dayFirst (.inr rfl))
  · exact .inr (by decide)
  · exact .inr (by decide)

/-- A text without slashes that is read in a written form is a spelling of its date. -/
lemma isSpelling_of_ofWritten? {date : Date} (hslash : .char '/' ∉ text)
    (hhead : ∀ c ∈ text.head?, isBlank c = false) (h : Date.ofWritten? text = some date) :
    ∃ word, NamesMonth word date.month ∧ IsSpelling word date.day (some date.year) text := by
  obtain ⟨form, hform, hread⟩ := List.exists_of_findSome?_eq_some h
  obtain ⟨parts, htake, hdate⟩ := Option.bind_eq_some_iff.mp hread
  unfold Date.of? at hdate
  split at hdate
  · cases hdate
    rcases isNamed_or_slash hform with hnamed | hmark
    · exact isSpelling_of_takeAll? hnamed hhead htake
    · exact absurd (mem_of_takeAll? hmark htake) hslash
  · cases hdate

/-! ### ISO dates -/

lemma asciiDigit?_eq_some {c : CodePoint} {d : Nat} (h : asciiDigit? c = some d) :
    c.isDigit = true ∧ d = c.toNat - '0'.toNat := by
  unfold asciiDigit? at h
  split at h
  · next hc => exact ⟨hc, (Option.some.inj h).symm⟩
  · cases h

/-- A number of so many digits stands in front of what follows it. -/
lemma fixedDigits?_eq_some {n acc value : Nat} (h : fixedDigits? n acc text = some (value, rest)) :
    ∃ digits, text = digits ++ rest ∧ digits.length = n ∧ IsDigits digits ∧
      valueOfDigits acc (digitValues digits) = value := by
  induction n generalizing acc text with
  | zero =>
    cases h
    exact ⟨[], rfl, rfl, isDigits_nil, rfl⟩
  | succ n ih =>
    cases text with
    | nil => cases h
    | cons c text =>
      unfold fixedDigits? at h
      split at h
      · next d hd =>
        obtain ⟨hc, rfl⟩ := asciiDigit?_eq_some hd
        obtain ⟨digits, rfl, hlength, hdigits, hvalue⟩ := ih h
        exact ⟨c :: digits, rfl, congrArg Nat.succ hlength, isDigits_cons.mpr ⟨hc, hdigits⟩, hvalue⟩
      · cases h

/-- A date in digits starts with the four digits of its year. -/
lemma exists_of_datePart? {date : Date} (h : datePart? text = some date) :
    ∃ digits rest, text = digits ++ rest ∧ digits.length = 4 ∧ IsDigits digits := by
  unfold datePart? at h
  split at h
  · cases h
  · next hyear =>
    obtain ⟨digits, htext, hlength, hdigits, -⟩ := fixedDigits?_eq_some hyear
    exact ⟨digits, _, htext, hlength, hdigits⟩

/-- An ISO text starts with the four digits of a year. -/
lemma exists_of_ofIso? {m : Moment} (h : Moment.ofIso? text = some m) :
    ∃ digits rest, text = digits ++ rest ∧ digits.length = 4 ∧ IsDigits digits := by
  have hpart : ∃ n date, datePart? (text.take n) = some date := by
    unfold Moment.ofIso? at h
    split at h
    · split at h
      · cases h
      · next n _ =>
        split at h
        · next date hdate _ => exact ⟨n, date, hdate⟩
        · next date _ _ hdate _ => exact ⟨n, date, hdate⟩
        · cases h
    · cases h
  obtain ⟨n, date, hdate⟩ := hpart
  obtain ⟨digits, rest, htake, hlength, hdigits⟩ := exists_of_datePart? hdate
  refine ⟨digits, rest ++ text.drop n, ?_, hlength, hdigits⟩
  rw [← List.append_assoc, ← htake, List.take_append_drop]

lemma isoText_eq (d : Date) : d.isoText = keyText d.year d.month d.day := by
  rw [keyText, yearText_natCast]
  rfl

/-- The number that is read in front of known characters. -/
lemma fixedDigits?_append {n value : Nat} {digits behind : List CodePoint}
    (hlength : digits.length = n) (h : fixedDigits? n 0 (digits ++ behind) = some (value, rest)) :
    rest = behind ∧ IsDigits digits ∧ digitsValue digits = value := by
  obtain ⟨taken, htext, htaken, hdigits, hvalue⟩ := fixedDigits?_eq_some h
  obtain ⟨rfl, rfl⟩ := List.append_inj htext (hlength.trans htaken.symm)
  exact ⟨rfl, hdigits, hvalue⟩

/-- A key that is read as a date is the text of the date. -/
lemma isoText_of_datePart? {date : Date} (hkey : isDayKey text = true)
    (h : datePart? text = some date) : date.isoText = text := by
  obtain ⟨year, month, day, rfl, ⟨hyear, hmonth, hday⟩, hdigits⟩ := isDayKey_iff.mp hkey
  have hdash : ∀ l : List CodePoint, ((.char '-' :: l).head? == some (.char '-')) =
      true := fun _ => rfl
  unfold datePart? at h
  split at h
  · cases h
  · next y _ htakeYear =>
    rw [List.append_assoc] at htakeYear
    obtain ⟨rfl, hyearDigits, hyearValue⟩ := fixedDigits?_append hyear htakeYear
    dsimp only at h
    rw [List.cons_append, hdash, if_pos rfl, List.drop_one, List.tail_cons] at h
    split at h
    · next heq =>
      -- A week would put a letter in the place of the month.
      have hmem : .char 'W' ∈ month := by
        obtain ⟨e, f, rfl⟩ := List.length_eq_two.mp hmonth
        cases heq
        exact List.mem_cons_self
      exact absurd (hdigits (.char 'W') (by simp [hmem])) (by decide)
    · split at h
      · cases h
      · next m _ htakeMonth =>
        obtain ⟨rfl, hmonthDigits, hmonthValue⟩ := fixedDigits?_append hmonth htakeMonth
        rw [hdash, if_pos rfl, List.drop_one, List.tail_cons] at h
        dsimp only at h
        split at h
        · next d _ htakeDay =>
          rw [← List.append_nil day] at htakeDay
          obtain ⟨-, hdayDigits, hdayValue⟩ := fixedDigits?_append hday htakeDay
          unfold Date.of? at h
          split at h
          · cases h
            -- Each row of digits is its value, padded to the same width.
            have hpad : ∀ {width value : Nat} {row : List CodePoint}, row.length = width + 1 →
                IsDigits row → digitsValue row = value → decimalPadded (width + 1) value = row := by
              rintro width _ row hlength hrow rfl
              rw [← hlength]
              exact decimalPadded_digitsValue hrow (List.ne_nil_of_length_eq_add_one hlength)
            rw [isoText_eq, keyText, yearText_natCast, hpad hyear hyearDigits hyearValue,
              hpad hmonth hmonthDigits hmonthValue, hpad hday hdayDigits hdayValue]
          · cases h
        · cases h

/-- A text in the form of a key is the ISO form of the day that it is read as. -/
lemma isoText_of_ofIso? {m : Moment} (hkey : isDayKey text = true)
    (h : Moment.ofIso? text = some m) : m.date.isoText = text := by
  have hlength : dateLength? text = some 10 ∧ text.length = 10 := by
    unfold isDayKey at hkey
    split at hkey
    · next a b c d e f g h' =>
      have hweek : e ≠ 'W' := by
        rintro rfl
        exact absurd (List.all_eq_true.mp hkey (.char 'W') (by simp)) (by decide)
      simp [dateLength?, hweek]
    · cases hkey
  unfold Moment.ofIso? at h
  split at h
  · rw [hlength.1] at h
    dsimp only at h
    rw [List.take_of_length_le hlength.2.le, List.drop_eq_nil_of_le hlength.2.le] at h
    split at h
    · next hdate _ =>
      cases h
      exact isoText_of_datePart? hkey hdate
    · next hnil => cases hnil
    · cases h
  · cases h

/-! ### Agreement -/

/-- A text that starts with something other than four digits is no ISO text. -/
lemma ofIso?_eq_none {start replacement : List CodePoint} (hmark : .char 'Z' ∉ start)
    (hlength : start.length ≤ 4) {c : CodePoint} (hc : c ∈ start) (hdigit : c.isDigit = false) :
    Moment.ofIso? (replaceAll ['Z'] replacement (start ++ rest)) = none := by
  rw [replaceAll_append_of_notMem hmark, Option.eq_none_iff_forall_ne_some]
  intro m hm
  obtain ⟨digits, behind, htext, hfour, hdigits⟩ := exists_of_ofIso? hm
  have hstart : start <+: digits ++ behind := htext ▸ List.prefix_append start _
  have hstarts : start <+: digits :=
    List.prefix_of_prefix_length_le hstart (List.prefix_append digits behind) (hfour ▸ hlength)
  rw [hdigits c (hstarts.subset hc)] at hdigit
  cases hdigit

lemma NamesMonth.notMem_mark {word : List CodePoint} {month : Nat} (h : NamesMonth word month) :
    .char 'Z' ∉ word := by
  obtain ⟨name, hmem, hname⟩ := h
  have hnames : ∀ p ∈ monthWords, .char 'z' ∉ p.1.toList := by decide
  intro hmark
  apply hnames _ hmem
  rw [← hname]
  exact List.mem_map_of_mem hmark

section Spelling

variable {word : List CodePoint} {day month : Nat} {year? : Option Nat}

/-- A spelling is not an ISO text: it starts with a letter, or a blank follows two digits at
most. -/
lemma IsSpelling.ofIso?_eq_none (h : IsSpelling word day year? text)
    (hmonth : NamesMonth word month) (replacement : List CodePoint) :
    Moment.ofIso? (replaceAll ['Z'] replacement text) = none := by
  -- Among the first four characters there is one that no year has: a letter, or the gap.
  cases h with
  | monthFirst hword hgap hday hending =>
    obtain ⟨c, word, rfl⟩ := List.exists_cons_of_ne_nil hword.ne_nil
    rw [List.cons_append, ← List.singleton_append]
    have hlength : [c].length ≤ 4 := Nat.le_add_left 1 3
    refine ofIso?_eq_none ?_ hlength (List.mem_singleton_self c) ?_
    · intro hmark
      rw [List.mem_singleton] at hmark
      exact hmonth.notMem_mark (hmark ▸ List.mem_cons_self)
    · have hletter := hword.letters c List.mem_cons_self
      exact not_isDigit_of_not_isDecimalDigit (not_isDecimalDigit_of_isAlpha hletter)
  | @dayFirst gap digits ending hword hgap hday hending =>
    obtain ⟨c, gap, rfl⟩ := List.exists_cons_of_ne_nil hgap.ne_nil
    have hblank := hgap.blank c List.mem_cons_self
    have htext : digits ++ (c :: gap ++ (word ++ ending)) =
        (digits ++ [c]) ++ (gap ++ (word ++ ending)) := by
      rw [List.append_assoc, List.singleton_append, List.cons_append]
    rw [htext]
    refine ofIso?_eq_none (c := c) ?_ ?_ (by simp) ?_
    · rw [List.mem_append, List.mem_singleton, not_or]
      constructor
      · intro hmark
        exact absurd (hday.digits 'Z' hmark) (by decide)
      · rintro rfl
        exact absurd hblank (by decide)
    · have hlength := hday.length_le
      rw [List.length_append, List.length_singleton]
      omega
    · exact not_isDigit_of_not_isDecimalDigit (not_isDecimalDigit_of_isBlank hblank)

lemma IsEnding.notMem_slash (h : IsEnding year? text) : .char '/' ∉ text := by
  cases h with
  | nothing => exact List.not_mem_nil
  | year hcomma hgap hyear hlength =>
    rw [List.mem_append, List.mem_append]
    rintro (hmem | hmem | hmem)
    · rcases hcomma with rfl | rfl
      · cases hmem
      · exact absurd hmem (by decide)
    · exact absurd (hgap.blank _ hmem) (by decide)
    · exact absurd (hyear.digits _ hmem) (by decide)

/-- Spellings have no slash, so the forms with slashes do not take them. -/
lemma IsSpelling.notMem_slash (h : IsSpelling word day year? text) : .char '/' ∉ text := by
  cases h with
  | monthFirst hword hgap hday hending =>
    simp only [List.mem_append]
    rintro (hmem | hmem | hmem | hmem)
    · exact absurd (hword.letters _ hmem) (by decide)
    · exact absurd (hgap.blank _ hmem) (by decide)
    · exact absurd (hday.digits _ hmem) (by decide)
    · exact hending.notMem_slash hmem
  | dayFirst hword hgap hday hending =>
    simp only [List.mem_append]
    rintro (hmem | hmem | hmem | hmem)
    · exact absurd (hday.digits _ hmem) (by decide)
    · exact absurd (hgap.blank _ hmem) (by decide)
    · exact absurd (hword.letters _ hmem) (by decide)
    · exact hending.notMem_slash hmem

end Spelling

/-- Keys have digits and dashes only. -/
lemma notMem_of_isDayKey {c : CodePoint} (hdash : c ≠ '-') (hdigit : isDecimalDigit c = false)
    (h : isDayKey text = true) : c ∉ text := by
  obtain ⟨year, month, day, rfl, -, hdigits⟩ := isDayKey_iff.mp h
  intro hmem
  have hmem : c ∈ year ++ month ++ day := by
    simp only [List.mem_append, List.mem_cons] at hmem ⊢
    tauto
  rw [hdigits c hmem] at hdigit
  cases hdigit

/-- Where a text has a key and names a moment, the key is the date of the moment. -/
theorem dayKey?_eq_isoText {fallback : Int} {m : Moment} {key : List CodePoint}
    (hread : Moment.read? text = some m) (hkey : dayKey? fallback text = some key) :
    key = m.date.isoText := by
  rcases dayKey?_eq_some_iff.mp hkey with
    ⟨hshape, rfl⟩ | ⟨word, day, year?, month, hspelling, hmonth, hday, rfl⟩
  · have hplain : replaceAll ['Z'] "+00:00".codePoints (trim text) = trim text := by
      have hmark : .char 'Z' ∉ trim text := notMem_of_isDayKey (by decide) (by decide) hshape
      simpa [replaceAll, replaceFrom] using replaceAll_append_of_notMem hmark []
    unfold Moment.read? at hread
    dsimp only at hread
    rw [hplain] at hread
    split at hread
    · next hiso =>
      cases hread
      exact (isoText_of_ofIso? hshape hiso).symm
    · obtain ⟨date, hwritten, rfl⟩ := Option.map_eq_some_iff.mp hread
      have hslash := notMem_of_isDayKey (c := '/') (by decide) (by decide) hshape
      obtain ⟨word, -, hspelling⟩ := isSpelling_of_ofWritten? hslash (head?_trim text) hwritten
      obtain ⟨c, hc, hblank⟩ := hspelling.exists_isBlank
      rw [not_isBlank_of_isDayKey hshape c hc] at hblank
      cases hblank
  · unfold Moment.read? at hread
    dsimp only at hread
    rw [hspelling.ofIso?_eq_none hmonth] at hread
    obtain ⟨date, hwritten, rfl⟩ := Option.map_eq_some_iff.mp hread
    obtain ⟨word', hmonth', hspelling'⟩ :=
      isSpelling_of_ofWritten? hspelling.notMem_slash (head?_trim text) hwritten
    -- The spelling that was found is the one that is read.
    have hsame := spelling?_eq_some_iff.mpr hspelling'
    rw [spelling?_eq_some_iff.mpr hspelling] at hsame
    cases hsame
    have hmonths := monthOfWord?_eq_some_iff.mpr hmonth'
    rw [monthOfWord?_eq_some_iff.mpr hmonth] at hmonths
    cases hmonths
    exact (isoText_eq date).symm

/-- A spelling in another letter case with Arabic digits that both readers take. -/
theorem dayKey?_eq_isoText_october :
    let text := "\u2003oCT 1٥,  2026 ".codePoints
    let m := Moment.ofDate ⟨2026, 10, 15, by decide⟩
    Moment.read? text = some m ∧ dayKey? 1 text = some "2026-10-15".codePoints ∧
      "2026-10-15".codePoints = m.date.isoText := by
  intro text m
  have hread : Moment.read? text = some m := by decide
  have hkey : dayKey? 1 text = some "2026-10-15".codePoints := by decide
  exact ⟨hread, hkey, dayKey?_eq_isoText hread hkey⟩

end TripProposal.Calendar
