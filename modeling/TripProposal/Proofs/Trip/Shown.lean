import TripProposal.Proofs.Trip.Bookings

/-!
# Bookings that are shown

Augmenting a booking drops its raw travelers and stores what templates show of it. All of this is
decided by fields that stay, except for the text of the travelers: it is empty when a booking is
augmented once more.
-/

namespace TripProposal.Trip

open Fields Value

variable {booking fields : Fields} {key : Text}

/-- What templates show of a booking, apart from travelers, balance and insurance. -/
def shownFields (booking : Fields) : Fields :=
  let type := BookingType.ofKey (typeKey booking)
  let status := BookingStatus.of booking
  [("typeLabel", .text type.label), ("typeIcon", .text type.icon),
   ("statusLabel", .text status.label), ("statusClass", .text status.className),
   ("statusBadge", .text status.badge), ("confirmationDisplay", .text (confirmationText booking))]

lemma bookingDisplay_eq (plans : List Value) (showBalance : Bool) (booking : Fields) :
    bookingDisplay plans showBalance booking = shownFields booking ++
      ([("travelersText", .text (travelersText ((get? "travelers" booking).getD .null))),
        ("showBalance", .bool showBalance), ("isInsurance", .bool (isInsurance booking)),
        ("insurancePlans", .list (if isInsurance booking then plans else []))] : Fields) := rfl

/-- The fields that decide what templates show of a booking. -/
def shownFrom : List Text :=
  ["type", "status", "holdExpires", "holdUntil", "expiresDate", "confirmation"]

/-- The shown fields depend on what they are computed from only. -/
lemma shownFields_congr {booking' : Fields}
    (h : ∀ key ∈ shownFrom, get? key booking' = get? key booking) :
    shownFields booking' = shownFields booking := by
  simp only [shownFrom, List.forall_mem_cons] at h
  obtain ⟨htype, hstatus, hexpires, huntil, hdate, hconfirmation, -⟩ := h
  have hkey : typeKey booking' = typeKey booking := by rw [typeKey, typeKey, htype]
  have hinsurance : isInsurance booking' = isInsurance booking := by
    rw [isInsurance, isInsurance, hkey]
  have hfirst : firstFilled? ["holdExpires", "holdUntil", "expiresDate"] booking' =
      firstFilled? ["holdExpires", "holdUntil", "expiresDate"] booking := by
    simp only [firstFilled?, List.findSome?_cons, List.findSome?_nil, hexpires, huntil, hdate]
  have hheld : heldStatus? booking' = heldStatus? booking := by
    rw [heldStatus?, heldStatus?, hfirst]
  have hof : BookingStatus.of booking' = BookingStatus.of booking := by
    simp [BookingStatus.of, hinsurance, hheld, hstatus]
  have htext : confirmationText booking' = confirmationText booking := by
    simp [confirmationText, hconfirmation]
  simp only [shownFields, hkey, hof, htext]

/-- A booking is augmented: it has no raw travelers, and it has the fields that templates show. -/
structure IsShown (booking : Fields) : Prop where
  travelers : get? "travelers" booking = none
  fields : ∀ entry ∈ shownFields booking, get? entry.1 booking = some entry.2
  balance : ∃ b, showsBalance ((get? "balance" booking).getD .null) = .ok b ∧
    get? "showBalance" booking = some (.bool b)
  insurance : get? "isInsurance" booking = some (.bool (isInsurance booking))
  plans : isInsurance booking = false → get? "insurancePlans" booking = some (.list [])

/-- The fields that augmenting a booking drops or stores. -/
def augmentedNames : List Text :=
  ["travelers", "typeLabel", "typeIcon", "statusLabel", "statusClass", "statusBadge",
   "confirmationDisplay", "travelersText", "showBalance", "isInsurance", "insurancePlans"]

lemma get?_putAll_display {plans : List Value} {b : Bool} (h : key ∉ augmentedNames) :
    get? key (putAll (bookingDisplay plans b booking) (erase "travelers" booking)) =
      get? key booking := by
  simp only [augmentedNames, List.mem_cons, List.not_mem_nil, or_false, not_or] at h
  obtain ⟨h₀, h₁, h₂, h₃, h₄, h₅, h₆, h₇, h₈, h₉, h₁₀⟩ := h
  simp [bookingDisplay, putAll, get?_erase, Ne.symm h₀, Ne.symm h₁, Ne.symm h₂, Ne.symm h₃,
    Ne.symm h₄, Ne.symm h₅, Ne.symm h₆, Ne.symm h₇, Ne.symm h₈, Ne.symm h₉, Ne.symm h₁₀]

lemma notMem_augmentedNames (h : key ∈ shownFrom) : key ∉ augmentedNames := by
  revert key
  decide

/-- Other fields are as they were. -/
lemma get?_augmentBooking {plans : List Value} (h : augmentBooking plans booking = .ok fields)
    (hkey : key ∉ augmentedNames) : get? key fields = get? key booking := by
  obtain ⟨b, -, rfl⟩ := augmentBooking_eq_ok_iff.mp h
  exact get?_putAll_display hkey

/-- An augmented booking is shown. -/
lemma isShown_augmentBooking {plans : List Value} (h : augmentBooking plans booking = .ok fields) :
    IsShown fields := by
  have hsame {key : Text} (hkey : key ∉ augmentedNames) := get?_augmentBooking h hkey
  have hinsurance : isInsurance fields = isInsurance booking := by
    rw [isInsurance, isInsurance, typeKey, typeKey, hsame (by decide)]
  have hshown : shownFields fields = shownFields booking :=
    shownFields_congr fun key hkey => hsame (notMem_augmentedNames hkey)
  have hbalance : get? "balance" fields = get? "balance" booking := hsame (by decide)
  obtain ⟨b, hb, rfl⟩ := augmentBooking_eq_ok_iff.mp h
  refine ⟨?_, ?_, ⟨b, ?_, ?_⟩, ?_, ?_⟩
  · simp [bookingDisplay, putAll, get?_erase]
  · rw [hshown]
    simp [shownFields, bookingDisplay, putAll]
  · rw [hbalance, hb]
  · simp [bookingDisplay, putAll]
  · rw [hinsurance]
    simp [bookingDisplay, putAll]
  · rw [hinsurance]
    intro hno
    simp [bookingDisplay, putAll, hno]

/-- A booking for insurance stays shown when it lists other plans. -/
lemma IsShown.put_plans {plans : Value} (h : IsShown booking) (hi : isInsurance booking = true) :
    IsShown (put "insurancePlans" plans booking) := by
  have hshown : shownFields (put "insurancePlans" plans booking) = shownFields booking := by
    refine shownFields_congr fun key hkey => get?_put_of_ne ?_
    rintro rfl
    exact absurd hkey (by decide)
  have hinsurance : isInsurance (put "insurancePlans" plans booking) = isInsurance booking := by
    simp [isInsurance, typeKey]
  obtain ⟨b, hb, hshow⟩ := h.balance
  refine ⟨?_, ?_, ⟨b, ?_, ?_⟩, ?_, ?_⟩
  · simp [h.travelers]
  · rw [hshown]
    intro entry hentry
    rw [get?_put_of_ne]
    · exact h.fields entry hentry
    · simp only [shownFields, List.mem_cons, List.not_mem_nil, or_false] at hentry
      rcases hentry with rfl | rfl | rfl | rfl | rfl | rfl <;> simp
  · simpa using hb
  · simpa using hshow
  · simp [hinsurance, h.insurance]
  · rw [hinsurance, hi]
    exact nofun

/-- Augmenting a booking that is shown loses its travelers and nothing else. -/
lemma IsShown.augmentBooking_eq {plans : List Value} (h : IsShown booking)
    (hp : isInsurance booking = true → get? "insurancePlans" booking = some (.list plans)) :
    augmentBooking plans booking = .ok (put "travelersText" (.text "") booking) := by
  obtain ⟨b, hb, hshow⟩ := h.balance
  have hplans : get? "insurancePlans" booking =
      some (.list (if isInsurance booking then plans else [])) := by
    cases hi : isInsurance booking with
    | true => exact hp hi
    | false => exact h.plans hi
  have hbefore : putAll (shownFields booking) booking = booking := putAll_eq_self h.fields
  have hafter : putAll [("showBalance", .bool b), ("isInsurance", .bool (isInsurance booking)),
      ("insurancePlans", .list (if isInsurance booking then plans else []))]
        (put "travelersText" (.text "") booking) = put "travelersText" (.text "") booking := by
    refine putAll_eq_self ?_
    simp [hshow, h.insurance, hplans]
  have hall : putAll (bookingDisplay plans b booking) booking =
      put "travelersText" (.text "") booking := by
    rw [bookingDisplay_eq, h.travelers, putAll, List.foldl_append]
    rw [putAll] at hbefore hafter
    rw [hbefore, List.foldl_cons]
    exact hafter
  rw [augmentBooking, hb, erase_of_get?_none h.travelers]
  exact congrArg Except.ok hall

end TripProposal.Trip
