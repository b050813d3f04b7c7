import TripProposal.Number.Reading
import TripProposal.Proofs.Text.Words

/-!
# The two readers of numbers

The strict reader takes a whole text as a number, the lenient one its beginning. What the strict
reader takes is a numeral once the underscores are gone. The lenient reader stops at the first
underscore: up to there the text is a numeral too, because underscores stand between digits.
-/

namespace TripProposal.Number

open Text

variable {text rest : List CodePoint} {places : List Nat}

/-! ### What follows a numeral -/

/-- Whether a text does not go on with a numeral that ends in front of it. -/
structure StopsNumeral (rest : List CodePoint) : Prop where
  digit : ∀ c ∈ rest.head?, isDecimalDigit c = false
  point : ∀ c ∈ rest.head?, c ≠ '.'
  exponent : ∀ c ∈ rest.head?, ¬ (c = 'e' ∨ c = 'E')

lemma stopsNumeral_nil : StopsNumeral [] := ⟨nofun, nofun, nofun⟩

lemma stopsNumeral_underscore (rest : List CodePoint) : StopsNumeral ('_' :: rest) := by
  constructor
  · rintro c ⟨⟩
    rfl
  · rintro c ⟨⟩
    decide
  · rintro c ⟨⟩
    decide

/-- Blanks end a numeral. -/
lemma stopsNumeral_of_blanks (h : ∀ c ∈ rest, isBlank c = true) : StopsNumeral rest := by
  have hhead : ∀ c ∈ rest.head?, isBlank c = true := fun c hc => h c (List.mem_of_mem_head? hc)
  refine ⟨fun c hc => not_isDecimalDigit_of_isBlank (hhead c hc), ?_, ?_⟩
  · rintro c hc rfl
    exact absurd (hhead _ hc) (by decide)
  · rintro c hc (rfl | rfl)
    · exact absurd (hhead _ hc) (by decide)
    · exact absurd (hhead _ hc) (by decide)

lemma digitValue?_eq_none {c : CodePoint} (h : isDecimalDigit c = false) :
    digitValue? c = none := by
  simpa [isDecimalDigit] using h

lemma StopsNumeral.takeDigits (h : StopsNumeral rest) : takeDigits rest = ([], rest) := by
  cases rest with
  | nil => rfl
  | cons c rest => rw [Text.takeDigits, digitValue?_eq_none (h.digit c rfl)]

/-- There is no exponent behind the end of a numeral. -/
lemma StopsNumeral.takeExponent (h : StopsNumeral rest) : takeExponent rest = (0, rest) := by
  cases rest with
  | nil => rfl
  | cons c rest => rw [Number.takeExponent, if_neg (h.exponent c rfl)]

lemma takeSign_append (h : text ≠ []) (rest : List CodePoint) :
    takeSign (text ++ rest) = ((takeSign text).1, (takeSign text).2 ++ rest) := by
  obtain ⟨c, text, rfl⟩ := List.exists_cons_of_ne_nil h
  rw [List.cons_append]
  unfold takeSign
  split
  · next heq =>
    cases heq
    rfl
  · next heq =>
    cases heq
    rfl
  · next hplus hminus =>
    have hc : c ≠ '+' ∧ c ≠ '-' :=
      ⟨fun h => hplus _ (congrArg (· :: _) h), fun h => hminus _ (congrArg (· :: _) h)⟩
    split
    · next heq => exact absurd (List.cons.inj heq).1 hc.1
    · next heq => exact absurd (List.cons.inj heq).1 hc.2
    · rfl

/-- Digits that end within a text are read as they are without what follows it. -/
lemma takeDigits_append_of_ne_nil (h : (takeDigits text).2 ≠ []) (rest : List CodePoint) :
    takeDigits (text ++ rest) = ((takeDigits text).1, (takeDigits text).2 ++ rest) := by
  induction text with
  | nil => exact absurd rfl h
  | cons c text ih =>
    rw [List.cons_append]
    unfold takeDigits at h ⊢
    split
    · next d hd =>
      rw [hd] at h
      rw [ih h]
    · rfl

/-- What starts with no digit leaves the digits in front as they are. -/
lemma takeDigits_append_of_stop (h : takeDigits rest = ([], rest)) (text : List CodePoint) :
    takeDigits (text ++ rest) = ((takeDigits text).1, (takeDigits text).2 ++ rest) := by
  induction text with
  | nil => exact h
  | cons c text ih =>
    rw [List.cons_append]
    unfold takeDigits
    split
    · rw [ih]
    · rfl

/-- The number of an exponent's digits, with its sign. -/
def signedValue (negative : Bool) (places : List Nat) : Int :=
  if negative then -(valueOfDigits 0 places : Int) else valueOfDigits 0 places

lemma takeExponent_of_takeDigits {c : CodePoint} (hc : c = 'e' ∨ c = 'E') (hne : places ≠ [])
    (h : takeDigits (takeSign text).2 = (places, rest)) :
    takeExponent (c :: text) = (signedValue (takeSign text).1 places, rest) := by
  obtain ⟨d, places, rfl⟩ := List.exists_cons_of_ne_nil hne
  rw [takeExponent, if_pos hc, h]
  rfl

/-- An exponent that takes a whole text is a mark and digits. -/
lemma exists_of_takeExponent {e : Int} (h : takeExponent text = (e, [])) (hne : text ≠ []) :
    ∃ c more places, text = c :: more ∧ (c = 'e' ∨ c = 'E') ∧ places ≠ [] ∧
      takeDigits (takeSign more).2 = (places, []) ∧ signedValue (takeSign more).1 places = e := by
  unfold takeExponent at h
  split at h
  · next c more =>
    split at h
    · next hc =>
      split at h
      · cases h
      · next places after htake hplaces =>
        cases h
        exact ⟨c, more, places, rfl, hc, htake, hplaces, rfl⟩
    · cases h
  · exact absurd rfl hne

/-- Digits are read around a point, where one side may be missing, or without a point. -/
lemma takeMantissa?_eq_some_iff {whole fraction : List Nat} :
    takeMantissa? text = some (whole, fraction, rest) ↔
      (∃ more, takeDigits text = (whole, .char '.' :: more) ∧ takeDigits more = (fraction, rest) ∧
        (whole = [] → fraction ≠ [])) ∨
      takeDigits text = (whole, rest) ∧ fraction = [] ∧ whole ≠ [] ∧
        ∀ c ∈ rest.head?, c ≠ '.' := by
  unfold takeMantissa?
  constructor
  -- A point takes a fraction with it, unless there is nothing on either side.
  · intro h
    split at h
    · next more htake =>
      split at h
      · cases h
      · next hne hfraction =>
        cases h
        exact .inl ⟨more, htake, hfraction, fun _ => hne⟩
    · cases h
    · next more hne htake =>
      obtain ⟨rfl, hfraction⟩ := Prod.mk.inj (Option.some.inj h)
      exact .inl ⟨more, htake, hfraction, fun hnil => absurd hnil hne⟩
    · next whole after hne hpoint htake =>
      cases h
      refine .inr ⟨htake, rfl, hne, ?_⟩
      rintro c hc rfl
      obtain ⟨more, rfl⟩ := List.head?_eq_some_iff.mp hc
      exact hpoint more rfl
  · rintro (⟨more, htake, hfraction, hne⟩ | ⟨htake, rfl, hne, hpoint⟩)
    · rw [htake]
      cases whole with
      | nil =>
        obtain ⟨d, fraction, rfl⟩ := List.exists_cons_of_ne_nil (hne rfl)
        simp only [hfraction]
      | cons d whole => simp only [hfraction]
    -- Without a point only the case of a point that follows has to be excluded.
    · obtain ⟨d, whole, rfl⟩ := List.exists_cons_of_ne_nil hne
      rw [htake]
      cases rest with
      | nil => rfl
      | cons c rest =>
        split
        · next heq => cases heq
        · next heq => cases heq
        · next heq =>
          cases heq
          exact absurd rfl (hpoint _ rfl)
        · next heq =>
          cases heq
          rfl

/-! ### Numerals with something behind them -/

lemma ne_nil_of_takeDigits (h : takeDigits text = (places, rest)) (hne : places ≠ []) :
    text ≠ [] := by
  rintro rfl
  cases h
  exact hne rfl

/-- An exponent is read up to where the numeral ends. -/
lemma takeExponent_append {e : Int} (h : takeExponent text = (e, [])) (hstop : StopsNumeral rest) :
    takeExponent (text ++ rest) = (e, rest) := by
  by_cases hne : text = []
  · subst hne
    cases h
    exact hstop.takeExponent
  · obtain ⟨c, more, places, rfl, hc, hplaces, htake, rfl⟩ := exists_of_takeExponent h hne
    have hmore : more ≠ [] := by
      rintro rfl
      exact ne_nil_of_takeDigits htake hplaces rfl
    have hsign := takeSign_append hmore rest
    have hdigits : takeDigits (takeSign (more ++ rest)).2 = (places, rest) := by
      rw [hsign, takeDigits_append_of_stop hstop.takeDigits, htake, List.nil_append]
    rw [List.cons_append, takeExponent_of_takeDigits hc hplaces hdigits, hsign]

/-- Digits and a point are read up to where the numeral ends. -/
lemma takeMantissa?_append {whole fraction : List Nat} {after : List CodePoint}
    (h : takeMantissa? text = some (whole, fraction, after)) (hstop : StopsNumeral rest) :
    takeMantissa? (text ++ rest) = some (whole, fraction, after ++ rest) := by
  rw [takeMantissa?_eq_some_iff] at h ⊢
  rw [takeDigits_append_of_stop hstop.takeDigits]
  rcases h with ⟨more, htake, hfraction, hne⟩ | ⟨htake, rfl, hne, hpoint⟩
  · refine .inl ⟨more ++ rest, by rw [htake, List.cons_append], ?_, hne⟩
    rw [takeDigits_append_of_stop hstop.takeDigits, hfraction]
  · refine .inr ⟨by rw [htake], rfl, hne, ?_⟩
    cases after with
    | nil => exact hstop.point
    | cons c after => exact hpoint

/-- A numeral ends where nothing continues it. -/
lemma takeNumeral?_append {n : Numeral} (h : takeNumeral? text = some (n, []))
    (hstop : StopsNumeral rest) : takeNumeral? (text ++ rest) = some (n, rest) := by
  unfold takeNumeral? at h ⊢
  split at h
  · cases h
  · next whole fraction after hmantissa =>
    have hne : text ≠ [] := by
      rintro rfl
      cases hmantissa
    obtain ⟨rfl, hafter⟩ := Prod.mk.inj (Option.some.inj h)
    have hexponent := takeExponent_append (Prod.ext rfl hafter) hstop
    rw [takeSign_append hne, takeMantissa?_append hmantissa hstop]
    dsimp only
    rw [hexponent]

/-! ### Numerals that are cut -/

/-- Whether the last character of a text is a digit. -/
def EndsInDigit (text : List CodePoint) : Prop := ∃ c ∈ text.getLast?, isDecimalDigit c = true

lemma EndsInDigit.ne_nil (h : EndsInDigit text) : text ≠ [] := by
  rintro rfl
  obtain ⟨c, hc, -⟩ := h
  cases hc

lemma EndsInDigit.of_append (h : EndsInDigit (text ++ rest)) (hne : rest ≠ []) :
    EndsInDigit rest := by
  obtain ⟨c, hc, hdigit⟩ := h
  rw [List.getLast?_append_of_ne_nil _ hne] at hc
  exact ⟨c, hc, hdigit⟩

lemma EndsInDigit.append (h : EndsInDigit rest) (text : List CodePoint) :
    EndsInDigit (text ++ rest) := by
  have hne := h.ne_nil
  obtain ⟨c, hc, hdigit⟩ := h
  refine ⟨c, ?_, hdigit⟩
  rwa [List.getLast?_append_of_ne_nil _ hne]

lemma EndsInDigit.tail {c : CodePoint} (h : EndsInDigit (c :: text))
    (hc : isDecimalDigit c = false) :
    EndsInDigit text := by
  by_cases hne : text = []
  · subst hne
    obtain ⟨d, hd, hdigit⟩ := h
    rw [List.getLast?_singleton, Option.mem_some] at hd
    rw [← hd, hc] at hdigit
    cases hdigit
  · have hcons : EndsInDigit ([c] ++ text) := h
    exact hcons.of_append hne

lemma EndsInDigit.takeSign (h : EndsInDigit text) : EndsInDigit (takeSign text).2 := by
  unfold Number.takeSign
  split
  · exact h.tail (by decide)
  · exact h.tail (by decide)
  · exact h

/-- What ends in a digit and consists of digits alone is a number. -/
lemma EndsInDigit.takeDigits (h : EndsInDigit text) (hall : (takeDigits text).2 = []) :
    ∃ places, Text.takeDigits text = (places, []) ∧ places ≠ [] := by
  refine ⟨(Text.takeDigits text).1, Prod.ext rfl hall, ?_⟩
  intro hnil
  obtain ⟨c, text, rfl⟩ := List.exists_cons_of_ne_nil h.ne_nil
  unfold Text.takeDigits at hnil hall
  split at hnil
  · cases hnil
  · next hc =>
    rw [hc] at hall
    cases hall

/-- A text that ends in a digit has the exponent of a longer one. -/
lemma EndsInDigit.takeExponent {e : Int} (h : EndsInDigit text)
    (hlong : takeExponent (text ++ rest) = (e, [])) : ∃ e, takeExponent text = (e, []) := by
  obtain ⟨c, text, rfl⟩ := List.exists_cons_of_ne_nil h.ne_nil
  rw [List.cons_append] at hlong
  obtain ⟨_, _, places, hcons, hc, hplaces, htake, -⟩ :=
    exists_of_takeExponent hlong (List.cons_ne_nil _ _)
  obtain ⟨rfl, rfl⟩ := List.cons.inj hcons
  have hmore : EndsInDigit text := by
    rcases hc with rfl | rfl
    · exact h.tail (by decide)
    · exact h.tail (by decide)
  rw [takeSign_append hmore.ne_nil] at htake
  by_cases hall : (Text.takeDigits (Number.takeSign text).2).2 = []
  · obtain ⟨places, hdigits, hne⟩ := hmore.takeSign.takeDigits hall
    exact ⟨_, takeExponent_of_takeDigits hc hne hdigits⟩
  · rw [takeDigits_append_of_ne_nil hall] at htake
    exact absurd (List.append_eq_nil_iff.mp (Prod.mk.inj htake).2).1 hall

lemma EndsInDigit.behind (h : EndsInDigit text) (hne : (Text.takeDigits text).2 ≠ []) :
    EndsInDigit (Text.takeDigits text).2 := by
  obtain ⟨digits, htext, -⟩ := takeDigits_eq_iff.mp (rfl : Text.takeDigits text = _)
  rw [htext] at h
  exact h.of_append hne

/-- A text that ends in a digit can be read when a longer one can. -/
lemma EndsInDigit.takeMantissa? {found : List Nat × List Nat × List CodePoint} {e : Int}
    (h : EndsInDigit text) (hlong : takeMantissa? (text ++ rest) = some found)
    (hend : Number.takeExponent found.2.2 = (e, [])) :
    ∃ found e, Number.takeMantissa? text = some found ∧
      Number.takeExponent found.2.2 = (e, []) := by
  obtain ⟨whole, fraction, after⟩ := found
  -- Where the digits reach the end, nothing behind them matters; else they end at the same place.
  by_cases hall : (Text.takeDigits text).2 = []
  · obtain ⟨places, hdigits, hne⟩ := h.takeDigits hall
    exact ⟨_, 0, takeMantissa?_eq_some_iff.mpr (.inr ⟨hdigits, rfl, hne, nofun⟩), rfl⟩
  · rw [takeMantissa?_eq_some_iff, takeDigits_append_of_ne_nil hall] at hlong
    have hbehind := h.behind hall
    have htake : Text.takeDigits text = (_, _) := rfl
    obtain ⟨c, behind, hcons⟩ := List.exists_cons_of_ne_nil hall
    rw [hcons] at hlong hbehind htake
    rw [List.cons_append] at hlong
    rcases hlong with ⟨more, hwhole, hfraction, hne⟩ | ⟨hwhole, rfl, hne, hpoint⟩
    · obtain ⟨rfl, hmore⟩ := Prod.mk.inj hwhole
      obtain ⟨rfl, rfl⟩ := List.cons.inj hmore
      have hdigit := hbehind.tail (by decide)
      by_cases hrest : (Text.takeDigits behind).2 = []
      · obtain ⟨places, hdigits, hplaces⟩ := hdigit.takeDigits hrest
        exact ⟨_, 0, takeMantissa?_eq_some_iff.mpr
          (.inl ⟨behind, htake, hdigits, fun _ => hplaces⟩), rfl⟩
      · rw [takeDigits_append_of_ne_nil hrest] at hfraction
        obtain ⟨rfl, rfl⟩ := Prod.mk.inj hfraction
        obtain ⟨e, hexponent⟩ := (hdigit.behind hrest).takeExponent hend
        exact ⟨_, e, takeMantissa?_eq_some_iff.mpr (.inl ⟨behind, htake, rfl, hne⟩), hexponent⟩
    · obtain ⟨rfl, rfl⟩ := Prod.mk.inj hwhole
      obtain ⟨e, hexponent⟩ := hbehind.takeExponent hend
      exact ⟨_, e, takeMantissa?_eq_some_iff.mpr (.inr ⟨htake, rfl, hne, hpoint⟩), hexponent⟩

/-- A numeral that is cut behind a digit is a numeral. -/
lemma EndsInDigit.takeNumeral? {n : Numeral} (h : EndsInDigit text)
    (hlong : takeNumeral? (text ++ rest) = some (n, [])) :
    ∃ n, Number.takeNumeral? text = some (n, []) := by
  unfold Number.takeNumeral? at hlong ⊢
  rw [takeSign_append h.ne_nil] at hlong
  split at hlong
  · cases hlong
  · next whole fraction after hmantissa =>
    obtain ⟨-, hafter⟩ := Prod.mk.inj (Option.some.inj hlong)
    obtain ⟨⟨whole, fraction, after⟩, e, hcut, hexponent⟩ :=
      h.takeSign.takeMantissa? hmantissa (Prod.ext rfl hafter)
    rw [hcut]
    dsimp only at hexponent ⊢
    exact ⟨_, by rw [hexponent]⟩

/-! ### Underscores -/

/-- The part of a text in front of its first underscore. -/
def beforeUnderscore (text : List CodePoint) : List CodePoint := text.takeWhile (· != '_')

/-- The first underscore counts. -/
lemma beforeUnderscore_append {before behind : List CodePoint} (h : .char '_' ∉ before) :
    beforeUnderscore (before ++ .char '_' :: behind) = before := by
  have hbefore : ∀ c ∈ before, (c != '_') = true := by
    intro c hc
    rw [bne_iff_ne]
    rintro rfl
    exact h hc
  rw [beforeUnderscore, List.takeWhile_append_of_pos hbefore]
  exact List.append_nil before

lemma beforeUnderscore_of_notMem (h : .char '_' ∉ text) : beforeUnderscore text = text := by
  rw [beforeUnderscore, List.takeWhile_eq_self_iff]
  intro c hc
  rw [bne_iff_ne]
  rintro rfl
  exact h hc

lemma notMem_beforeUnderscore (text : List CodePoint) : .char '_' ∉ beforeUnderscore text := by
  intro h
  exact absurd (List.mem_takeWhile_imp h) (by decide)

/-- Without underscores nothing is dropped. -/
lemma dropUnderscores?_of_notMem (h : .char '_' ∉ text) (afterDigit : Bool) :
    dropUnderscores? afterDigit text = some text := by
  induction text generalizing afterDigit with
  | nil => rfl
  | cons c text ih =>
    rw [List.mem_cons, not_or] at h
    unfold dropUnderscores?
    split
    · next heq => cases heq
    · next heq => exact absurd (List.cons.inj heq).1.symm h.1
    · next heq =>
      cases heq
      rw [ih h.2]
      rfl

/-- The first underscore stands between a digit and what is left of the text. -/
lemma cut_of_dropUnderscores? {plain : List CodePoint} {afterDigit : Bool}
    (h : dropUnderscores? afterDigit text = some plain) (hmem : .char '_' ∈ text) :
    ∃ before behind more, text = before ++ .char '_' :: behind ∧ .char '_' ∉ before ∧
      plain = before ++ more ∧
      (before = [] ∧ afterDigit = true ∨ EndsInDigit before) := by
  induction text generalizing afterDigit plain with
  | nil => cases hmem
  | cons c text ih =>
    -- At the first underscore the reader checks the digit in front of it.
    by_cases hc : c = .char '_'
    · subst hc
      refine ⟨[], text, plain, rfl, List.not_mem_nil, rfl, .inl ⟨rfl, ?_⟩⟩
      unfold dropUnderscores? at h
      split at h
      · next heq => cases heq
      · split at h
        · split at h
          · next hafter =>
            rw [Bool.and_eq_true] at hafter
            exact hafter.1
          · cases h
        · cases h
      · next hnot heq =>
        cases heq
        exact (hnot rfl).elim
    · have hmore : .char '_' ∈ text := (List.mem_cons.mp hmem).resolve_left (Ne.symm hc)
      have hdrop : (dropUnderscores? (isDecimalDigit c) text).map (c :: ·) = some plain := by
        rw [← h]
        conv_rhs => unfold dropUnderscores?
        split
        · next heq => cases heq
        · next heq => exact absurd (List.cons.inj heq).1 hc
        · next heq =>
          cases heq
          rfl
      obtain ⟨plain, hplain, rfl⟩ := Option.map_eq_some_iff.mp hdrop
      obtain ⟨before, behind, more, rfl, hnot, rfl, hend⟩ := ih hplain hmore
      refine ⟨c :: before, behind, more, rfl, ?_, rfl, .inr ?_⟩
      · rw [List.mem_cons, not_or]
        exact ⟨Ne.symm hc, hnot⟩
      · rcases hend with ⟨rfl, hdigit⟩ | ⟨d, hd, hdigit⟩
        · exact ⟨c, rfl, hdigit⟩
        · exact EndsInDigit.append ⟨d, hd, hdigit⟩ [c]

/-! ### Whole texts -/

lemma not_isNumberBlank_of_not_isBlank {c : CodePoint} (h : isBlank c = false) :
    isNumberBlank c = false := by
  rw [isNumberBlank, h, Bool.false_and]

lemma trimNumber_eq_self (hhead : ∀ c ∈ text.head?, isBlank c = false)
    (hlast : ∀ c ∈ text.getLast?, isBlank c = false) : trimNumber text = text := by
  have hdrop : text.dropWhile isNumberBlank = text := by
    cases text with
    | nil => rfl
    | cons c text => simp [not_isNumberBlank_of_not_isBlank (hhead c rfl)]
  have hdrop' : text.reverse.dropWhile isNumberBlank = text.reverse := by
    cases hcons : text.reverse with
    | nil => rfl
    | cons c behind =>
      have hc : c ∈ text.getLast? := by
        rw [← List.head?_reverse, hcons]
        rfl
      simp [not_isNumberBlank_of_not_isBlank (hlast c hc)]
  rw [trimNumber, hdrop, hdrop', List.reverse_reverse]

/-- What starts with a letter is no number in digits. -/
lemma head_of_takeMantissa? {found : List Nat × List Nat × List CodePoint}
    (h : takeMantissa? text = some found) :
    ∃ c behind, text = c :: behind ∧ c.isAlpha = false := by
  obtain ⟨whole, fraction, after⟩ := found
  cases text with
  | nil => cases h
  | cons c text =>
    refine ⟨c, text, rfl, ?_⟩
    by_cases hc : isDecimalDigit c = true
    · exact not_isAlpha_of_isDecimalDigit hc
    · have htake : takeDigits (c :: text) = ([], c :: text) := by
        rw [takeDigits, digitValue?_eq_none (Bool.not_eq_true _ ▸ hc)]
      rcases takeMantissa?_eq_some_iff.mp h with ⟨more, hpoint, -⟩ | ⟨hdigits, -, hne, -⟩
      · rw [htake] at hpoint
        cases hpoint
        rfl
      · rw [htake] at hdigits
        exact absurd (Prod.mk.inj hdigits).1.symm hne

/-- A numeral is no name, as names start with a letter. -/
lemma named?_eq_none {found : Numeral × List CodePoint} (h : takeNumeral? text = some found) :
    named? text = none := by
  obtain ⟨c, behind, htext, hc⟩ : ∃ c behind, (takeSign text).2 = c :: behind ∧
      c.isAlpha = false := by
    unfold takeNumeral? at h
    split at h
    · cases h
    · next hmantissa => exact head_of_takeMantissa? hmantissa
  have hname : ∀ d name, d.isLower = true → (c :: behind).map asciiLower ≠ d :: name := by
    intro d name hd heq
    obtain ⟨rfl, -⟩ := List.cons.inj heq
    rw [isAlpha_of_asciiLower hd] at hc
    cases hc
  unfold named?
  rw [htext]
  have hinf := hname 'i' "nf".codePoints (by decide)
  have hinfinity := hname 'i' "nfinity".codePoints (by decide)
  have hnan := hname 'n' "an".codePoints (by decide)
  exact (if_neg (not_or.mpr ⟨hinf, hinfinity⟩)).trans (if_neg hnan)

/-- A text that is a numeral is read as its value. -/
lemma read?_of_takeNumeral? {n : Numeral} (h : takeNumeral? text = some (n, []))
    (hplain : .char '_' ∉ text) (htrim : trimNumber text = text) : read? text = some n.value := by
  unfold read?
  rw [htrim, named?_eq_none h, dropUnderscores?_of_notMem hplain]
  dsimp only
  rw [h]

/-- The names stand for what is not finite. -/
lemma not_isFinite_of_named? {x : Binary64} (h : named? text = some x) : x.isFinite = false := by
  unfold named? at h
  dsimp only at h
  split at h
  · cases h
    rfl
  · split at h
    · cases h
      rfl
    · cases h

/-- What the strict reader takes is a numeral up to its first underscore, and the numeral is the
number that it reads when there is no underscore. -/
lemma exists_of_read? {x : Binary64} (hread : read? (trim text) = some x)
    (hfinite : x.isFinite = true) :
    ∃ n, takeNumeral? (beforeUnderscore (trim text)) = some (n, []) ∧
      trimNumber (beforeUnderscore (trim text)) = beforeUnderscore (trim text) ∧
      (.char '_' ∉ trim text → n.value = x) := by
  have htrim := trimNumber_eq_self (head?_trim text) (getLast?_trim text)
  unfold read? at hread
  rw [htrim] at hread
  split at hread
  · next hnamed =>
    cases hread
    rw [not_isFinite_of_named? hnamed] at hfinite
    cases hfinite
  · split at hread
    · cases hread
    · next plain hdrop =>
      split at hread
      · next n htake =>
        cases hread
        -- Underscores stand between digits, so the text is cut behind one and can still be read.
        by_cases hmem : .char '_' ∈ trim text
        · obtain ⟨before, behind, more, htext, hbefore, rfl, hend⟩ :=
            cut_of_dropUnderscores? hdrop hmem
          have hdigit : EndsInDigit before := by
            rcases hend with ⟨-, hfalse⟩ | hdigit
            · cases hfalse
            · exact hdigit
          obtain ⟨n, hcut⟩ := hdigit.takeNumeral? htake
          have hhead := head?_trim text
          rw [htext] at hhead hmem ⊢
          rw [beforeUnderscore_append hbefore]
          refine ⟨n, hcut, trimNumber_eq_self ?_ ?_, fun hnot => absurd hmem hnot⟩
          · intro c hc
            exact hhead c (List.mem_head?_append_of_mem_head? hc)
          · obtain ⟨d, hd, hdecimal⟩ := hdigit
            intro c hc
            rw [Option.mem_unique hc hd]
            exact not_isBlank_of_isDecimalDigit hdecimal
        · rw [dropUnderscores?_of_notMem hmem] at hdrop
          cases hdrop
          rw [beforeUnderscore_of_notMem hmem]
          exact ⟨n, htake, htrim, fun _ => rfl⟩
      · cases hread

/-- Behind the part in front of the first underscore, no numeral goes on. -/
lemma exists_dropWhile_eq_beforeUnderscore_append (text : List CodePoint) :
    ∃ rest, StopsNumeral rest ∧
      text.dropWhile isBlank = beforeUnderscore (trim text) ++ rest := by
  obtain ⟨after, hblank, hdrop⟩ := exists_dropWhile_eq_trim_append text
  by_cases hmem : .char '_' ∈ trim text
  · obtain ⟨before, behind, htext, hbefore⟩ := List.eq_append_cons_of_mem hmem
    refine ⟨'_' :: (behind ++ after), stopsNumeral_underscore _, ?_⟩
    rw [hdrop, htext, beforeUnderscore_append hbefore, List.append_assoc, List.cons_append]
  · exact ⟨after, stopsNumeral_of_blanks hblank, by rw [beforeUnderscore_of_notMem hmem, hdrop]⟩

/-- The lenient reader finds the number up to the first underscore in what the strict reader
takes, unless blanks in front keep it from being a number. -/
lemma readLeading_of_read? {x : Binary64} (hread : read? (trim text) = some x)
    (hfinite : x.isFinite = true) :
    ∃ y, read? (beforeUnderscore (trim text)) = some y ∧ (.char '_' ∉ trim text → y = x) ∧
      readLeading text = if (text.takeWhile isBlank).all isNumberBlank then .ok (some y)
        else .error .separatorBefore := by
  obtain ⟨n, htake, htrim, hvalue⟩ := exists_of_read? hread hfinite
  obtain ⟨rest, hstop, hdrop⟩ := exists_dropWhile_eq_beforeUnderscore_append text
  refine ⟨n.value, read?_of_takeNumeral? htake (notMem_beforeUnderscore _) htrim, hvalue, ?_⟩
  rw [readLeading, hdrop, takeNumeral?_append htake hstop]

end TripProposal.Number
