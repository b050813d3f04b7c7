import TripProposal.Proofs.Trip.Preparation
import TripProposal.Proofs.Trip.Views

/-!
# Settled trips

What a step leaves behind is settled for this step: the step would leave it as it is. Here is what
the steps on days, pasted data, images and insurance settle, and that each of them has nothing to do
where that is settled.
-/

namespace TripProposal.Trip

open Fields Value

variable {trip day booking fields : Fields} {key : Text}

/-! ### Days -/

/-- A day has nothing that cannot be read. -/
structure IsSanitized (day : Fields) : Prop where
  activities : ∀ items, get? "activities" day = some (.list items) →
    ∀ v ∈ items, activityIsWorded v = true
  schedule : ∀ items, get? "schedule" day = some (.list items) →
    ∀ v ∈ items, scheduleItemIsWorded v = true
  lodging : ∀ lodging, get? "lodging" day = some (.object lodging) →
    isWordedText (get? "name" lodging) = true

/-- A sanitized day is left as it is. -/
lemma IsSanitized.sanitizeDay_eq (h : IsSanitized day) : (sanitizeDay day).1 = day := by
  have hactivities : changeList "activities" (List.filter activityIsWorded) day = day :=
    changeList_eq_self fun items hv => List.filter_eq_self.mpr (h.activities items hv)
  have hschedule : changeList "schedule" (List.filter scheduleItemIsWorded) day = day :=
    changeList_eq_self fun items hv => List.filter_eq_self.mpr (h.schedule items hv)
  rw [fst_sanitizeDay, hactivities, hschedule]
  unfold keepLodging
  split
  · next lodging hv => rw [if_pos (h.lodging lodging hv)]
  · rfl

lemma get?_lodging_keepLodging {report : Repair} {lodging : Fields}
    (h : get? "lodging" (keepLodging report day).1 = some (.object lodging)) :
    isWordedText (get? "name" lodging) = true := by
  unfold keepLodging at h
  split at h
  · next lodging' hv =>
    split at h
    · next hworded =>
      rw [hv] at h
      obtain rfl := Value.object.inj (Option.some.inj h)
      exact hworded
    · rw [get?_erase, if_pos rfl] at h
      cases h
  · next hno => exact absurd h (hno lodging)

/-- After sanitizing a day is sanitized. -/
lemma isSanitized_sanitizeDay (day : Fields) : IsSanitized (sanitizeDay day).1 := by
  rw [fst_sanitizeDay]
  refine ⟨?_, ?_, fun lodging h => get?_lodging_keepLodging h⟩
  · intro items hv
    rw [get?_keepLodging _ _ (by decide), get?_changeList_of_ne (by decide)] at hv
    obtain ⟨items', -, rfl⟩ := get?_changeList_eq_list.mp hv
    intro v hmem
    exact (List.mem_filter.mp hmem).2
  · intro items hv
    rw [get?_keepLodging _ _ (by decide)] at hv
    obtain ⟨items', -, rfl⟩ := get?_changeList_eq_list.mp hv
    intro v hmem
    exact (List.mem_filter.mp hmem).2

/-! ### Pasted data -/

lemma looksLikeJson_empty : looksLikeJson "" = false := by
  decide

/-- The details and notes of a booking hold no data. -/
def IsProse (booking : Fields) : Prop :=
  ∀ key ∈ (["details", "notes"] : List Text), ∀ s, get? key booking = some (.text s) →
    looksLikeJson s = false

lemma IsProse.congr {booking' : Fields} (h : IsProse booking)
    (hsame : ∀ key ∈ (["details", "notes"] : List Text), get? key booking' = get? key booking) :
    IsProse booking' := by
  intro key hkey s hs
  rw [hsame key hkey] at hs
  exact h key hkey s hs

/-- A field with prose is left as it is. -/
lemma clearField_eq_self {number : Nat}
    (h : ∀ s, get? key booking = some (.text s) → looksLikeJson s = false) :
    (clearField number key booking).1 = booking := by
  unfold clearField
  split
  · next s hs => simp [h s hs]
  · rfl

/-- A cleared field holds no data. -/
lemma looksLikeJson_clearField {number : Nat} {s : Text}
    (h : get? key (clearField number key booking).1 = some (.text s)) :
    looksLikeJson s = false := by
  unfold clearField at h
  split at h
  · next t ht =>
    split at h
    · rw [get?_put_self] at h
      obtain rfl := Value.text.inj (Option.some.inj h)
      exact looksLikeJson_empty
    · next hno =>
      rw [ht] at h
      obtain rfl := Value.text.inj (Option.some.inj h)
      exact Bool.not_eq_true _ ▸ hno
  · next hno => exact absurd h (hno s)

lemma IsProse.clearedBooking_eq (h : IsProse booking) : clearedBooking booking = booking := by
  simp only [clearedBooking, clearBooking]
  rw [clearField_eq_self (h "details" (by decide)), clearField_eq_self (h "notes" (by decide))]

/-- A cleared booking holds prose. -/
lemma isProse_clearedBooking (booking : Fields) : IsProse (clearedBooking booking) := by
  intro key hkey s hs
  simp only [clearedBooking, clearBooking] at hs
  rcases List.mem_pair.mp hkey with rfl | rfl
  · rw [get?_clearField (by decide)] at hs
    exact looksLikeJson_clearField hs
  · exact looksLikeJson_clearField hs

/-! ### Images -/

/-- No images of the cabin stand apart from the cabin. -/
def HasNoCabinImages (trip : Fields) : Prop :=
  ∀ items, get? "cabin" (objectAt "images" trip) ≠ some (.list items)

/-- Where no images stand apart, none are moved. -/
lemma HasNoCabinImages.moveCabinImages (h : HasNoCabinImages trip) :
    Trip.moveCabinImages trip = (trip, []) := by
  unfold Trip.moveCabinImages
  dsimp only
  split
  · next items hv => exact absurd hv (h items)
  · rfl

/-- Dropping the images of the cabin leaves the other ones. -/
lemma objectAt_dropCabinImages (images trip : Fields) :
    objectAt "images" (dropCabinImages images trip) = erase "cabin" images := by
  unfold dropCabinImages
  split
  · next h => simp [objectAt, get?_erase, h]
  · simp [objectAt]

/-- After moving them none stand apart. -/
lemma hasNoCabinImages_moveCabinImages (trip : Fields) :
    HasNoCabinImages (moveCabinImages trip).1 := by
  intro items
  unfold moveCabinImages
  dsimp only
  split
  · rw [objectAt_dropCabinImages, get?_erase, if_pos rfl]
    exact nofun
  · next hno => exact hno items

lemma HasNoCabinImages.congr {trip' : Fields} (h : HasNoCabinImages trip)
    (hsame : get? "images" trip' = get? "images" trip) : HasNoCabinImages trip' := by
  rwa [HasNoCabinImages, objectAt, hsame]

/-! ### Insurance -/

/-- With a recommended option, no other one is recommended. -/
lemma recommendMiddle?_again {options options' : List Value}
    (h : recommendMiddle? options = some options') : recommendMiddle? options' = none := by
  unfold recommendMiddle? at h
  split at h
  · cases h
  · split at h
    · next middle hmiddle =>
      obtain rfl := Option.some.inj h
      obtain ⟨hlength, -⟩ := List.getElem?_eq_some_iff.mp hmiddle
      have hmem : Value.object (put "recommended" (.bool true) middle) ∈
          options.set (options.length / 2) (.object (put "recommended" (.bool true) middle)) :=
        List.mem_set hlength _
      have hany : (options.set (options.length / 2)
          (.object (put "recommended" (.bool true) middle))).any isRecommended = true := by
        refine List.any_eq_true.mpr ⟨_, hmem, ?_⟩
        simp [isRecommended, field?, isFilled]
      rw [recommendMiddle?, hany, Bool.or_true, if_pos rfl]
    · cases h

lemma recommendInsurance?_congr {trip' : Fields}
    (h : get? "travelInsurance" trip' = get? "travelInsurance" trip) :
    recommendInsurance? trip' = none ↔ recommendInsurance? trip = none := by
  have hsection : insuranceSection trip' = insuranceSection trip := by
    rw [insuranceSection, insuranceSection, objectAt, objectAt, h]
  unfold recommendInsurance?
  rw [hsection]
  split
  · rw [Option.map_eq_none_iff, Option.map_eq_none_iff]
  · rfl

/-- Once the middle option was recommended where that applies, it does not apply any more. -/
lemma recommendInsurance?_again {trip' : Fields} (h : recommendInsurance? trip = some trip') :
    recommendInsurance? trip' = none := by
  unfold recommendInsurance? at h
  split at h
  · next options ho =>
    obtain ⟨options', hmiddle, rfl⟩ := Option.map_eq_some_iff.mp h
    have hsection : insuranceSection (put "travelInsurance"
        (.object (put "options" (.list options') (insuranceSection trip))) trip) =
          put "options" (.list options') (insuranceSection trip) :=
      objectAt_of_get? get?_put_self
    unfold recommendInsurance?
    rw [hsection, get?_put_self]
    simp [recommendMiddle?_again hmiddle]
  · cases h

namespace Workspace

lemma showPlans_eq (plans : List Value) : showPlans plans = changeFields fun booking =>
    if isInsurance booking then put "insurancePlans" (.list plans) booking else booking := by
  funext v
  cases v with
  | object booking =>
    simp only [showPlans, changeFields]
    split <;> rfl
  | _ => rfl

lemma trip_refreshPlans (w : Workspace) : w.refreshPlans.trip = w.trip ∨
    ∃ plans, w.refreshPlans.trip = changeList "bookings" (List.map (showPlans plans)) w.trip := by
  unfold refreshPlans
  split
  · next bookings plans _ hv _ => exact .inr ⟨plans, by rw [changeList_of_get? hv]⟩
  · exact .inl rfl

/-- Either no option is recommended, or one is and live plans follow. -/
lemma recommendInsurance_cases (w : Workspace) :
    (recommendInsurance? w.trip = none ∧ w.recommendInsurance.1 = w) ∨
      ∃ trip, recommendInsurance? w.trip = some trip ∧
        w.recommendInsurance.1 = refreshPlans { w with trip := trip } := by
  unfold recommendInsurance
  cases h : recommendInsurance? w.trip with
  | none => exact .inl ⟨rfl, rfl⟩
  | some trip => exact .inr ⟨trip, rfl, rfl⟩

/-- A recommendation changes the insurance only. -/
lemma get?_recommendInsurance? {trip' : Fields} (h : recommendInsurance? trip = some trip')
    (hne : "travelInsurance" ≠ key) : get? key trip' = get? key trip := by
  unfold recommendInsurance? at h
  split at h
  · obtain ⟨options, -, rfl⟩ := Option.map_eq_some_iff.mp h
    exact get?_put_of_ne hne
  · cases h

lemma get?_refreshPlans (w : Workspace) (h : "bookings" ≠ key) :
    get? key w.refreshPlans.trip = get? key w.trip := by
  rcases trip_refreshPlans w with hw | ⟨plans, hw⟩
  · rw [hw]
  · rw [hw, get?_changeList_of_ne h]

/-- Recommending an option changes the insurance and the plans of bookings only. -/
lemma get?_recommendInsurance (w : Workspace)
    (h : key ∉ (["travelInsurance", "bookings"] : List Text)) :
    get? key w.recommendInsurance.1.trip = get? key w.trip := by
  simp only [List.mem_cons, List.not_mem_nil, or_false, not_or] at h
  rcases recommendInsurance_cases w with ⟨-, hw⟩ | ⟨trip, htrip, hw⟩
  · rw [hw]
  · rw [hw, get?_refreshPlans _ (Ne.symm h.2)]
    exact get?_recommendInsurance? htrip (Ne.symm h.1)

/-- After a recommendation there is none left to make. -/
lemma recommendInsurance?_recommendInsurance (w : Workspace) :
    recommendInsurance? w.recommendInsurance.1.trip = none := by
  rcases recommendInsurance_cases w with ⟨hnone, hw⟩ | ⟨trip, htrip, hw⟩
  · rw [hw]
    exact hnone
  · rw [hw, recommendInsurance?_congr (get?_refreshPlans _ (by decide))]
    exact recommendInsurance?_again htrip

/-- Recommending an option changes nothing in bookings but the plans of insurance. -/
lemma hasItem_recommendInsurance {w : Workspace}
    (h : HasItem "bookings" booking w.recommendInsurance.1.trip) :
    ∃ stored, HasItem "bookings" stored w.trip ∧ (booking = stored ∨
      isInsurance stored = true ∧ ∃ plans, booking = put "insurancePlans" plans stored) := by
  rcases recommendInsurance_cases w with ⟨-, hw⟩ | ⟨trip, htrip, hw⟩
  · rw [hw] at h
    exact ⟨booking, h, .inl rfl⟩
  · rw [hw] at h
    have hsame (stored : Fields) : HasItem "bookings" stored trip ↔
        HasItem "bookings" stored w.trip := hasItem_congr (get?_recommendInsurance? htrip (by decide))
    rcases trip_refreshPlans { w with trip := trip } with htrip | ⟨plans, htrip⟩
    · rw [htrip] at h
      exact ⟨booking, (hsame booking).mp h, .inl rfl⟩
    · rw [htrip, showPlans_eq, hasItem_changeList_map] at h
      obtain ⟨stored, hstored, rfl⟩ := h
      refine ⟨stored, (hsame stored).mp hstored, ?_⟩
      cases hi : isInsurance stored with
      | true => exact .inr ⟨rfl, _, if_pos rfl⟩
      | false => exact .inl (if_neg Bool.false_ne_true)

end Workspace

end TripProposal.Trip
