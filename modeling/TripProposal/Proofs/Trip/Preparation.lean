import TripProposal.Proofs.Value.Lists
import TripProposal.Trip.Booking
import TripProposal.Trip.Images
import TripProposal.Trip.Itinerary

/-!
# Preparing a trip

Before anything is shown, entries that cannot be read are dropped from the days, pasted data is
blanked in the bookings, and images of the cabin are moved to the cabin. Each of these steps changes
its own part of the trip and leaves the rest.
-/

namespace TripProposal.Trip

open Fields Value

variable {trip day booking images item : Fields} {key : Text}

/-- The trip after its days and bookings are cleared and its images moved. -/
def prepared (trip : Fields) : Fields :=
  (moveCabinImages (clearPastedData (sanitizeItinerary trip).1).1).1

/-! ### Days -/

/-- What is left of a list are the items that pass the test. -/
lemma fst_keepItems (key : Text) (test : Value → Bool) (report : Nat → Repair) (day : Fields) :
    (keepItems key test report day).1 = changeList key (List.filter test) day := by
  unfold keepItems
  split
  · next items hv => rw [changeList_of_get? hv]
  · next hv => rw [changeList_of_not_list hv]

lemma get?_keepLodging (report : Repair) (day : Fields) (h : "lodging" ≠ key) :
    get? key (keepLodging report day).1 = get? key day := by
  unfold keepLodging
  split
  · split
    · rfl
    · rw [get?_erase, if_neg h]
  · rfl

/-- Sanitizing a day works field by field. -/
lemma fst_sanitizeDay (day : Fields) : (sanitizeDay day).1 =
    (keepLodging (.lodgingDropped ((get? "day" day).getD .null))
      (changeList "schedule" (List.filter scheduleItemIsWorded)
        (changeList "activities" (List.filter activityIsWorded) day))).1 := by
  simp only [sanitizeDay, fst_keepItems]

lemma get?_sanitizeDay (h : key ∉ (["activities", "schedule", "lodging"] : List Text)) :
    get? key (sanitizeDay day).1 = get? key day := by
  simp only [List.mem_cons, List.not_mem_nil, or_false, not_or] at h
  rw [fst_sanitizeDay, get?_keepLodging _ _ (Ne.symm h.2.2), get?_changeList_of_ne (Ne.symm h.2.1),
    get?_changeList_of_ne (Ne.symm h.1)]

/-- The activities that stay are those that can be read. -/
lemma hasItem_activities_sanitizeDay :
    HasItem "activities" item (sanitizeDay day).1 ↔
      HasItem "activities" item day ∧ activityIsWorded (.object item) = true := by
  rw [fst_sanitizeDay, hasItem_congr (get?_keepLodging _ _ (by decide)),
    hasItem_changeList_of_ne (by decide), hasItem_changeList_filter]

lemma fst_sanitizeDays (days : List Value) :
    (sanitizeDays days).1 = days.map (changeFields fun day => (sanitizeDay day).1) := by
  induction days with
  | nil => rfl
  | cons v days ih => cases v <;> simp [sanitizeDays, changeFields, ih]

/-- Sanitizing an itinerary works day by day. -/
lemma fst_sanitizeItinerary (trip : Fields) : (sanitizeItinerary trip).1 =
    changeList "itinerary" (List.map (changeFields fun day => (sanitizeDay day).1)) trip := by
  unfold sanitizeItinerary
  split
  · next days hv => rw [changeList_of_get? hv, fst_sanitizeDays]
  · next hv => rw [changeList_of_not_list hv]

/-! ### Bookings -/

/-- A booking whose details and notes hold no data. -/
def clearedBooking (booking : Fields) : Fields :=
  (clearBooking 1 booking).1

lemma fst_clearField (number : Nat) (key : Text) (booking : Fields) :
    (clearField number key booking).1 = (clearField 1 key booking).1 := by
  unfold clearField
  split
  · split <;> rfl
  · rfl

lemma fst_clearBooking (number : Nat) (booking : Fields) :
    (clearBooking number booking).1 = clearedBooking booking := by
  simp only [clearedBooking, clearBooking, fst_clearField number]

lemma fst_clearAll (number : Nat) (bookings : List Value) :
    (clearAll number bookings).1 = bookings.map (changeFields clearedBooking) := by
  induction bookings generalizing number with
  | nil => rfl
  | cons v bookings ih => cases v <;> simp [clearAll, changeFields, ih, fst_clearBooking]

/-- Clearing pasted data works booking by booking. -/
lemma fst_clearPastedData (trip : Fields) : (clearPastedData trip).1 =
    changeList "bookings" (List.map (changeFields clearedBooking)) trip := by
  unfold clearPastedData
  split
  · next bookings hv => rw [changeList_of_get? hv, fst_clearAll]
  · next hv => rw [changeList_of_not_list hv]

lemma get?_clearField {number : Nat} {other : Text} (h : key ≠ other) :
    get? other (clearField number key booking).1 = get? other booking := by
  unfold clearField
  split
  · split
    · exact get?_put_of_ne h
    · rfl
  · rfl

lemma get?_clearedBooking (h : key ∉ (["details", "notes"] : List Text)) :
    get? key (clearedBooking booking) = get? key booking := by
  simp only [List.mem_cons, List.not_mem_nil, or_false, not_or] at h
  simp only [clearedBooking, clearBooking]
  rw [get?_clearField (Ne.symm h.2), get?_clearField (Ne.symm h.1)]

/-! ### Images -/

lemma get?_dropCabinImages (h : "images" ≠ key) :
    get? key (dropCabinImages images trip) = get? key trip := by
  unfold dropCabinImages
  split
  · rw [get?_erase, if_neg h]
  · exact get?_put_of_ne h

lemma get?_moveCabinImages (h : key ∉ (["cruiseInfo", "images"] : List Text)) :
    get? key (moveCabinImages trip).1 = get? key trip := by
  simp only [List.mem_cons, List.not_mem_nil, or_false, not_or] at h
  unfold moveCabinImages
  dsimp only
  split
  · rw [get?_dropCabinImages (Ne.symm h.2), get?_put_of_ne (Ne.symm h.1)]
  · rfl

/-! ### The prepared trip -/

/-- Preparing a trip works on four fields. -/
lemma get?_prepared (h : key ∉ (["itinerary", "bookings", "cruiseInfo", "images"] : List Text)) :
    get? key (prepared trip) = get? key trip := by
  simp only [List.mem_cons, List.not_mem_nil, or_false, not_or] at h
  rw [prepared, get?_moveCabinImages (by simp [h]), fst_clearPastedData,
    get?_changeList_of_ne (Ne.symm h.2.1), fst_sanitizeItinerary,
    get?_changeList_of_ne (Ne.symm h.1)]

/-- The days of a prepared trip. -/
lemma hasItem_itinerary_prepared : HasItem "itinerary" item (prepared trip) ↔
    ∃ day, HasItem "itinerary" day trip ∧ (sanitizeDay day).1 = item := by
  rw [prepared, hasItem_congr (get?_moveCabinImages (by decide)), fst_clearPastedData,
    hasItem_changeList_of_ne (by decide), fst_sanitizeItinerary, hasItem_changeList_map]

/-- The bookings of a prepared trip. -/
lemma hasItem_bookings_prepared : HasItem "bookings" item (prepared trip) ↔
    ∃ booking, HasItem "bookings" booking trip ∧ clearedBooking booking = item := by
  rw [prepared, hasItem_congr (get?_moveCabinImages (by decide)), fst_clearPastedData,
    hasItem_changeList_map, fst_sanitizeItinerary]
  simp only [hasItem_changeList_of_ne (show ("itinerary" : Text) ≠ "bookings" by decide)]

end TripProposal.Trip
