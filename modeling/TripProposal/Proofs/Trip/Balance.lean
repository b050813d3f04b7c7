import TripProposal.Proofs.Number.Readers
import TripProposal.Proofs.Template.Currency
import TripProposal.Proofs.Template.Leniency
import TripProposal.Trip.Booking

/-!
# Balances

Whether a balance shows is decided by the strict reader of numbers, and the amount that shows is
found by the lenient one. They find the same number unless the text of the balance has an
underscore between its digits or an information separator in front.
-/

namespace TripProposal.Trip

open Text Number Template

variable {s : Text} {x : Binary64}

/-- A balance that is a number is one without the blanks around it. -/
lemma read?_of_number? (hblank : isAllBlank s.toList = false)
    (h : (Value.text s).number? = .ok (some x)) : Number.read? (trim s.toList) = some x := by
  unfold Value.number? at h
  dsimp only at h
  rw [hblank] at h
  exact Except.ok.inj h

/-- What is read leniently from a text that the strict reader takes: with a separator in front
nothing, and otherwise the number in front of the first underscore. -/
lemma readLeading_of_number? (hblank : isAllBlank s.toList = false)
    (hnumber : (Value.text s).number? = .ok (some x)) (hfinite : x.isFinite = true)
    (hseparated : ¬ SeparatedNumber s.toList) :
    ∃ y, Number.read? (beforeUnderscore (trim s.toList)) = some y ∧
      readLeading s.toList = .ok (some y) ∧ (CodePoint.char '_' ∉ s.toList → y = x) := by
  obtain ⟨y, hread, hsame, hleading⟩ :=
    readLeading_of_read? (read?_of_number? hblank hnumber) hfinite
  rw [← readLeading_eq_error_iff] at hseparated
  split at hleading
  · exact ⟨y, hread, hleading, fun hplain => hsame fun h => hplain (trim_subset _ h)⟩
  · exact absurd hleading hseparated

/-- What is read from the front is what shows. -/
lemma showsAsDollars_of_readLeading (hleading : readLeading s.toList = .ok (some x))
    (hfinite : x.isFinite = true) :
    ∃ amount, Spells x.text amount ∧ ShowsAsDollars (.text s) amount := by
  cases x with
  | nan => cases hfinite
  | infinite negative => cases hfinite
  | finite negative size =>
    obtain ⟨a, hamount, hvalue, hdigits⟩ := exists_amountOf_finite negative size
    have htext : amountOf (.text s) = .ok (some a) := by
      rw [← hamount, amountOf, amountOf, hleading]
      rfl
    refine ⟨a.toRat, ?_, showsAsDollars_of_amountOf htext hdigits⟩
    rw [hvalue]
    exact (spellsUnsigned_magnitudeText size).signed negative

/-- A balance shows when it is more than nothing. -/
lemma showsBalance_of_number? (hnumber : (Value.text s).number? = .ok (some x))
    (hfinite : x.isFinite = true) : showsBalance (.text s) = .ok x.isPositive := by
  unfold showsBalance
  rw [hnumber]
  exact congrArg Except.ok (if_pos hfinite)

/-- A balance that is read as a finite number shows when the number is positive, and it shows as
that number. With an underscore it shows as the number in front of the underscore; with an
information separator in front it fails to show. -/
theorem balance_shows_number (hblank : isAllBlank s.toList = false)
    (hnumber : (Value.text s).number? = .ok (some x)) (hfinite : x.isFinite = true) :
    showsBalance (.text s) = .ok x.isPositive ∧
    (¬ SeparatedNumber s.toList → CodePoint.char '_' ∉ s.toList → readLeading s.toList = .ok (some x) ∧
      ∃ amount, Spells x.text amount ∧ ShowsAsDollars (.text s) amount) ∧
    (¬ SeparatedNumber s.toList → ∃ y, readLeading s.toList = .ok (some y) ∧
      Number.read? (beforeUnderscore (trim s.toList)) = some y) ∧
    (SeparatedNumber s.toList → readLeading s.toList = .error .separatorBefore) := by
  refine ⟨showsBalance_of_number? hnumber hfinite, ?_, ?_, (readLeading_eq_error_iff _).mpr⟩
  · intro hseparated hplain
    obtain ⟨y, -, hleading, hsame⟩ := readLeading_of_number? hblank hnumber hfinite hseparated
    rw [hsame hplain] at hleading
    exact ⟨hleading, showsAsDollars_of_readLeading hleading hfinite⟩
  · intro hseparated
    obtain ⟨y, hread, hleading, -⟩ := readLeading_of_number? hblank hnumber hfinite hseparated
    exact ⟨y, hleading, hread⟩

theorem balance_shows_number_arabic :
    let s : Text := "\u3000+1٢.5e2\n"
    let x := Binary64.ofDecimal false 1250 0
    x.isFinite = true ∧ x.isPositive = true ∧ isAllBlank s.toList = false ∧
      (Value.text s).number? = .ok (some x) ∧ showsBalance (.text s) = .ok true ∧
      readLeading s.toList = .ok (some x) ∧
      ∃ amount, Spells x.text amount ∧ ShowsAsDollars (.text s) amount := by
  intro s x
  have hblank : isAllBlank s.toList = false := by decide
  have hnumber : (Value.text s).number? = .ok (some x) := by decide +kernel
  have hseparated : ¬ SeparatedNumber s.toList := by
    rw [← readLeading_eq_error_iff]
    decide +kernel
  obtain ⟨hshows, hsame, -⟩ := balance_shows_number hblank hnumber rfl
  exact ⟨rfl, rfl, hblank, hnumber, hshows, hsame hseparated (by decide)⟩

/-- The readers do not agree on thousands that are set apart by an underscore, nor on a number
behind an information separator. -/
theorem balance_readers_differ :
    (Value.text "1_000").number? = .ok (some (.ofDecimal false 1000 0)) ∧
    showsBalance (.text "1_000") = .ok true ∧
    readLeading "1_000".codePoints = .ok (some (.ofDecimal false 1 0)) ∧
    Binary64.ofDecimal false 1 0 ≠ .ofDecimal false 1000 0 ∧
    displayCurrency (some (.text "1_000")) = .ok "$1".codePoints ∧
    (Value.text "\u001c5").number? = .ok (some (.ofDecimal false 5 0)) ∧
    showsBalance (.text "\u001c5") = .ok true ∧
    readLeading "\u001c5".codePoints = .error .separatorBefore := by
  decide +kernel

end TripProposal.Trip
