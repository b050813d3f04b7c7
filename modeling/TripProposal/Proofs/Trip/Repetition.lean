import TripProposal.Proofs.Trip.Failures
import TripProposal.Proofs.Trip.Notices
import TripProposal.Proofs.Trip.Ranking
import TripProposal.Proofs.Trip.Settled
import TripProposal.Proofs.Trip.Shown

/-!
# Normalizing once more

A normalized trip is settled for every step, so normalizing the trip that was left behind gives the
same data, with one exception. The raw travelers of a booking are dropped when their text is
written, and so the second time this text is empty.
-/

namespace TripProposal.Trip

open Fields Value Traversal

variable {trip fields booking day item : Fields} {key : Text} {v : Value}

/-! ### Tracked links -/

lemma map_linksAt (key : Text) (links : Traversal Fields) (f : Value → Value) (fields : Fields) :
    (linksAt key links).map f fields =
      changeList key (List.map (changeFields (links.map f))) fields := by
  have hobject : links.object.map f = changeFields (links.map f) := by
    funext v
    cases v <;> rfl
  cases hv : get? key fields with
  | none =>
    rw [linksAt, map_field_of_none _ hv, changeList_of_not_list (by simp [hv])]
  | some v =>
    rw [linksAt, map_field_of_some _ hv]
    cases v with
    | list items =>
      rw [changeList_of_get? hv, ← hobject]
      rfl
    | _ =>
      rw [changeList_of_not_list (by simp [hv])]
      exact put_of_get? hv

lemma get?_map_linkAt {other : Text} (h : key ≠ other) (f : Value → Value) :
    get? other ((linkAt key).map f fields) = get? other fields :=
  get?_map_field_of_ne h _ _ _

lemma map_dayLinks_eq (f : Value → Value) (day : Fields) :
    dayLinks.map f day = changeList "excursions" (List.map (changeFields ((linkAt "url").map f)))
      (changeList "activities" (List.map (changeFields ((linkAt "url").map f))) day) := by
  rw [← map_linksAt, ← map_linksAt]
  rfl

/-- The links of a trip are changed list by list, those of the tours first. -/
lemma map_tripLinks_eq (f : Value → Value) (trip : Fields) :
    tripLinks.map f trip = changeList "itinerary" (List.map (changeFields (dayLinks.map f)))
      (changeList "recommendedExtras" (List.map (changeFields ((linkAt "url").map f)))
        (changeList "excursions" (List.map (changeFields ((linkAt "url").map f)))
          ((portLinks.object.field "viatorTours").map f trip))) := by
  rw [← map_linksAt, ← map_linksAt, ← map_linksAt]
  rfl

/-- An activity that can be read stays one while its name and description are kept. -/
lemma activityIsWorded_changeFields {f : Fields → Fields}
    (hname : ∀ fields, get? "name" (f fields) = get? "name" fields)
    (hdescription : ∀ fields, get? "description" (f fields) = get? "description" fields)
    (v : Value) : activityIsWorded (v.changeFields f) = activityIsWorded v := by
  cases v with
  | object fields => simp only [activityIsWorded, changeFields, field?, hname, hdescription]
  | _ => rfl

/-- A day keeps what can be read when its links are tracked. -/
lemma IsSanitized.map_dayLinks (h : IsSanitized day) (f : Value → Value) :
    IsSanitized (dayLinks.map f day) := by
  rw [map_dayLinks_eq]
  constructor
  · intro items hv
    rw [get?_changeList_of_ne (by decide)] at hv
    obtain ⟨items', hv', rfl⟩ := get?_changeList_eq_list.mp hv
    refine List.forall_mem_map.mpr fun v hmem => ?_
    rw [activityIsWorded_changeFields (fun _ => get?_map_linkAt (by decide) f)
      (fun _ => get?_map_linkAt (by decide) f)]
    exact h.activities items' hv' v hmem
  · intro items hv
    rw [get?_changeList_of_ne (by decide), get?_changeList_of_ne (by decide)] at hv
    exact h.schedule items hv
  · intro lodging hv
    rw [get?_changeList_of_ne (by decide), get?_changeList_of_ne (by decide)] at hv
    exact h.lodging lodging hv

/-- The days of a tracked trip are the days with their links tracked. -/
lemma hasItem_itinerary_map_tripLinks {f : Value → Value} :
    HasItem "itinerary" day (tripLinks.map f trip) ↔
      ∃ stored, HasItem "itinerary" stored trip ∧ dayLinks.map f stored = day := by
  have hsame : get? "itinerary" (changeList "recommendedExtras"
      (List.map (changeFields ((linkAt "url").map f))) (changeList "excursions"
        (List.map (changeFields ((linkAt "url").map f)))
          ((portLinks.object.field "viatorTours").map f trip))) = get? "itinerary" trip := by
    rw [get?_changeList_of_ne (by decide), get?_changeList_of_ne (by decide),
      get?_map_field_of_ne (by decide)]
  rw [map_tripLinks_eq, hasItem_changeList_map]
  simp only [hasItem_congr hsame]

variable {partner : Partner} {codes : Option AffiliateCodes}

/-- Tracking links keeps days sanitized. -/
lemma isSanitized_trackedTrip (h : ∀ day, HasItem "itinerary" day trip → IsSanitized day)
    (hday : HasItem "itinerary" day (trackedTrip partner codes trip)) : IsSanitized day := by
  unfold trackedTrip at hday
  split at hday
  · split at hday
    · obtain ⟨stored, hstored, rfl⟩ := hasItem_itinerary_map_tripLinks.mp hday
      exact (h stored hstored).map_dayLinks _
    · exact h day hday
  · exact h day hday

/-- In a tracked trip, and in one with no other links, there is nothing to track. -/
lemma trackedTrip_of_values {trip' : Fields} (hd : partner.domain ≠ "")
    (ht : LinksTrackable partner codes trip)
    (hv : ∀ v ∈ tripLinks.values trip', v ∈ tripLinks.values (trackedTrip partner codes trip)) :
    LinksTrackable partner codes trip' ∧ trackedTrip partner codes trip' = trip' := by
  by_cases hcode : ∃ c, codes = some c ∧ c.partnerId.isFilled = true
  · obtain ⟨c, rfl, hc⟩ := hcode
    have hlinks : ∀ v ∈ tripLinks.values trip',
        partner.Trackable c v ∧ partner.tracked c v = v := by
      intro v hmem
      have hmem := hv v hmem
      rw [trackedTrip, if_pos hc, tripLinks.values_map] at hmem
      obtain ⟨u, hu, rfl⟩ := List.mem_map.mp hmem
      exact Partner.tracked_tracked hd hc (ht c rfl hc u hu)
    refine ⟨?_, ?_⟩
    · rintro _ ⟨⟩ - v hmem
      exact (hlinks v hmem).1
    · rw [trackedTrip, if_pos hc]
      exact tripLinks.map_eq_self _ _ fun v hmem => (hlinks v hmem).2
  · refine ⟨fun c hc hfilled => absurd ⟨c, hc, hfilled⟩ hcode, ?_⟩
    exact (trackLinks_of_no_code partner trip' hcode).2

/-! ### What the steps leave -/

variable {request : Request} {matcher : NoticeMatcher} {w w' : Workspace}

namespace Workspace

lemma get?_augmentBookings (h : w.augmentBookings = .ok w') (hne : "bookings" ≠ key) :
    get? key w'.trip = get? key w.trip := by
  rcases augmentBookings_cases h with ⟨_, _, -, -, rfl⟩ | ⟨-, rfl⟩
  · exact get?_put_of_ne hne
  · rfl

/-- Each booking was augmented. -/
lemma hasItem_augmentBookings (h : w.augmentBookings = .ok w')
    (hb : HasItem "bookings" booking w'.trip) :
    ∃ stored plans, HasItem "bookings" stored w.trip ∧
      augmentBooking plans stored = .ok booking := by
  obtain ⟨items, hitems, hmem⟩ := hb
  rcases augmentBookings_cases h with ⟨bookings, augmented, hv, haugmented, rfl⟩ | ⟨hno, rfl⟩
  · rw [get?_put_self] at hitems
    obtain rfl := Value.list.inj (Option.some.inj hitems)
    obtain ⟨v, hv', haugments⟩ := exists_of_mem_forall₂ (augmentAll_eq_ok_iff.mp haugmented) hmem
    cases haugments with
    | booking haug => exact ⟨_, _, ⟨bookings, hv, hv'⟩, haug⟩
    | other hno => exact absurd rfl (hno booking)
  · exact absurd hitems (hno items)

/-- The last steps, with the packaged notices. -/
lemma exists_finish (matcher : NoticeMatcher) (w : Workspace) :
    ∃ w' : Workspace, w'.trip = noticesBlanked matcher
        (Trip.groupTours (rankRecommendedExtras w.trip)) ∧
      w.finish matcher [packagedPair] = w'.recommendInsurance.1 := by
  refine ⟨_, ?_, rfl⟩
  rw [trip_blankNotices, trip_groupTours]
  rfl

end Workspace

lemma get?_groupTours (h : key ∉ (["viatorToursByPort", "viatorToursDescription"] : List Text)) :
    get? key (groupTours trip) = get? key trip := by
  simp only [List.mem_cons, List.not_mem_nil, or_false, not_or] at h
  unfold groupTours
  split
  · rw [get?_put_of_ne (Ne.symm h.2), get?_put_of_ne (Ne.symm h.1)]
  · rfl

/-- The fields of a trip that the last steps change. -/
def finishedFields : List Text :=
  ["recommendedExtras", "viatorToursByPort", "viatorToursDescription", "meta", "travelInsurance",
   "bookings"]

/-- The last steps work on a few fields. -/
lemma get?_finish (matcher : NoticeMatcher) (w : Workspace) (h : key ∉ finishedFields) :
    get? key (w.finish matcher [packagedPair]).trip = get? key w.trip := by
  simp only [finishedFields, List.mem_cons, List.not_mem_nil, or_false, not_or] at h
  obtain ⟨w', htrip, hfinish⟩ := Workspace.exists_finish matcher w
  rw [hfinish, Workspace.get?_recommendInsurance _ (by simp [h]), htrip,
    get?_noticesBlanked (by simp [h]), get?_groupTours (by simp [h]), rankRecommendedExtras_eq,
    get?_changeList_of_ne (Ne.symm h.1)]

lemma get?_extras_finish (matcher : NoticeMatcher) (w : Workspace) :
    get? "recommendedExtras" (w.finish matcher [packagedPair]).trip =
      get? "recommendedExtras" (changeList "recommendedExtras" rankExtras w.trip) := by
  obtain ⟨w', htrip, hfinish⟩ := Workspace.exists_finish matcher w
  rw [hfinish, Workspace.get?_recommendInsurance _ (by decide), htrip,
    get?_noticesBlanked (by decide), get?_groupTours (by decide), rankRecommendedExtras_eq]

/-- Ranked extras have the links of the extras. -/
lemma hasItem_rankExtras {extra : Fields}
    (h : HasItem "recommendedExtras" extra (changeList "recommendedExtras" rankExtras trip)) :
    ∃ stored, HasItem "recommendedExtras" stored trip ∧
      get? "url" extra = get? "url" stored := by
  obtain ⟨items, hv, hmem⟩ := hasItem_changeList.mp h
  obtain ⟨u, hu, heq⟩ := List.mem_map.mp (List.mem_mergeSort.mp hmem)
  cases u with
  | object stored =>
    obtain rfl := Value.object.inj heq
    exact ⟨stored, ⟨items, hv, hu⟩, by simp [putAll]⟩
  | _ => cases heq

/-- A trip is settled when no step but the one on bookings would change it. -/
structure IsSettled (request : Request) (matcher : NoticeMatcher) (trip : Fields) : Prop where
  days : ∀ day, HasItem "itinerary" day trip → IsSanitized day
  prose : ∀ booking, HasItem "bookings" booking trip → IsProse booking
  images : HasNoCabinImages trip
  links : LinksTrackable request.settings.partner (request.profile.map (·.affiliates)) trip
  tracked : trackedTrip request.settings.partner (request.profile.map (·.affiliates)) trip = trip
  bookings : ∀ booking, HasItem "bookings" booking trip → IsShown booking
  plans : PlansListed trip
  extras : ∀ extras, get? "recommendedExtras" trip = some (.list extras) →
    rankExtras extras = extras
  groups : ToursGrouped trip
  /-- Notices were blanked after the description of the tours was copied. -/
  notices : ∃ before,
    get? "viatorToursDescription" trip =
      get? "viatorToursDescription" (noticesBlanked matcher before) ∧
    get? "meta" trip = get? "meta" (noticesBlanked matcher before) ∧
    ∀ tours, get? "viatorTours" trip = some (.object tours) →
      get? "viatorToursDescription" before = some (toursDescription tours)
  insurance : recommendInsurance? trip = none

section

variable {label : Text} {n : Nat} {w₁ w₂ : Workspace}
  (hlinks : Workspace.trackLinks request.settings.partner (request.profile.map (·.affiliates))
    { w with trip := prepared w.trip } = .ok (w₁, n))
  (hbookings : w₁.augmentBookings = .ok w₂)

include hlinks

/-- Only links and grouped tours differ between a prepared trip and a tracked one. -/
lemma get?_trackLinks (hne : "viatorToursByPort" ≠ key) : get? key w₁.trip = get? key
    (trackedTrip request.settings.partner (request.profile.map (·.affiliates))
      (prepared w.trip)) := by
  obtain ⟨trip, n, htrip, hr⟩ := Workspace.trackLinks_eq_ok_iff.mp hlinks
  obtain ⟨rfl, -⟩ := Prod.mk.inj hr
  obtain ⟨-, rfl⟩ := Trip.trackLinks_eq_ok_iff.mp ⟨n, htrip⟩
  rw [Workspace.trip_refreshTours, get?_changeList_of_ne hne]

include hbookings

lemma get?_finish_tracked (matcher : NoticeMatcher) (h : key ∉ finishedFields) :
    get? key (w₂.finish matcher [packagedPair]).trip = get? key
      (trackedTrip request.settings.partner (request.profile.map (·.affiliates))
        (prepared w.trip)) := by
  have hne : "bookings" ≠ key ∧ "viatorToursByPort" ≠ key := by
    simp only [finishedFields, List.mem_cons, not_or] at h
    simp [h, eq_comm]
  rw [get?_finish matcher w₂ h, Workspace.get?_augmentBookings hbookings hne.1,
    get?_trackLinks hlinks hne.2]

/-- The bookings of a finished trip were cleared and augmented. -/
lemma isShown_finish (hb : HasItem "bookings" booking (w₂.finish matcher [packagedPair]).trip) :
    IsShown booking ∧ IsProse booking := by
  obtain ⟨w', htrip, hfinish⟩ := Workspace.exists_finish matcher w₂
  rw [hfinish] at hb
  obtain ⟨stored, hstored, hbooking⟩ := Workspace.hasItem_recommendInsurance hb
  have hsame : get? "bookings" w'.trip = get? "bookings" w₂.trip := by
    rw [htrip, get?_noticesBlanked (by decide), get?_groupTours (by decide),
      rankRecommendedExtras_eq, get?_changeList_of_ne (by decide)]
  obtain ⟨raw, plans, hraw, haug⟩ :=
    Workspace.hasItem_augmentBookings hbookings ((hasItem_congr hsame).mp hstored)
  rw [hasItem_congr ((get?_trackLinks hlinks (by decide)).trans (get?_trackedTrip (by decide)))]
    at hraw
  obtain ⟨_, -, rfl⟩ := hasItem_bookings_prepared.mp hraw
  have hshown : IsShown stored := isShown_augmentBooking haug
  have hprose : IsProse stored := by
    refine (isProse_clearedBooking _).congr fun key hkey => get?_augmentBooking haug ?_
    revert key
    decide
  rcases hbooking with rfl | ⟨hi, plans, rfl⟩
  · exact ⟨hshown, hprose⟩
  · refine ⟨hshown.put_plans hi, hprose.congr fun key hkey => get?_put_of_ne ?_⟩
    rintro rfl
    exact absurd hkey (by decide)

/-- The links of a finished trip are those of the tracked one. -/
lemma mem_tripLinks_finish (hv : v ∈ tripLinks.values (w₂.finish matcher [packagedPair]).trip) :
    v ∈ tripLinks.values (trackedTrip request.settings.partner
      (request.profile.map (·.affiliates)) (prepared w.trip)) := by
  have hframe {key : Text} (h : key ∉ finishedFields) :=
    get?_finish_tracked hlinks hbookings matcher h
  rw [mem_tripLinks] at hv ⊢
  rcases hv with hv | ⟨excursion, hitem, hv⟩ | ⟨extra, hitem, hv⟩ | ⟨day, hitem, hv⟩
  · refine .inl ?_
    rwa [values_field_congr (hframe (by decide))] at hv
  · exact .inr (.inl ⟨excursion, (hasItem_congr (hframe (by decide))).mp hitem, hv⟩)
  · rw [hasItem_congr (get?_extras_finish matcher w₂)] at hitem
    obtain ⟨stored, hstored, hurl⟩ := hasItem_rankExtras hitem
    rw [hasItem_congr ((Workspace.get?_augmentBookings hbookings (by decide)).trans
      (get?_trackLinks hlinks (by decide)))] at hstored
    exact .inr (.inr (.inl ⟨stored, hstored, hurl ▸ hv⟩))
  · exact .inr (.inr (.inr ⟨day, (hasItem_congr (hframe (by decide))).mp hitem, hv⟩))

/-- Normalizing leaves a settled trip. -/
lemma isSettled_finish (hd : request.settings.partner.domain ≠ "") :
    IsSettled request matcher (w₂.finish matcher [packagedPair]).trip := by
  have hframe {key : Text} (h : key ∉ finishedFields) :=
    get?_finish_tracked hlinks hbookings matcher h
  have htrackable : LinksTrackable request.settings.partner
      (request.profile.map (·.affiliates)) (prepared w.trip) :=
    (Workspace.exists_trackLinks { w with trip := prepared w.trip }).mp ⟨w₁, n, hlinks⟩
  -- Blanking and grouping bring no links, so those that are read again are tracked ones.
  have hvalues : ∀ v ∈ tripLinks.values (w₂.finish matcher [packagedPair]).trip,
      v ∈ tripLinks.values (trackedTrip request.settings.partner
        (request.profile.map (·.affiliates)) (prepared w.trip)) :=
    fun v hv => mem_tripLinks_finish hlinks hbookings hv
  obtain ⟨hlinks', htracked⟩ := trackedTrip_of_values hd htrackable hvalues
  obtain ⟨hgroups, hplans⟩ := finish_spec matcher [packagedPair] hbookings
  obtain ⟨w', htrip, hfinish⟩ := Workspace.exists_finish matcher w₂
  constructor
  case days =>
    intro day hday
    rw [hasItem_congr (hframe (by decide))] at hday
    refine isSanitized_trackedTrip (fun stored hstored => ?_) hday
    obtain ⟨raw, -, rfl⟩ := hasItem_itinerary_prepared.mp hstored
    exact isSanitized_sanitizeDay raw
  case prose => exact fun booking hb => (isShown_finish hlinks hbookings hb).2
  case images =>
    have himages : HasNoCabinImages (prepared w.trip) := hasNoCabinImages_moveCabinImages _
    refine himages.congr ?_
    rw [hframe (by decide), get?_trackedTrip (by decide)]
  case links => exact hlinks'
  case tracked => exact htracked
  case bookings => exact fun booking hb => (isShown_finish hlinks hbookings hb).1
  case plans => exact hplans
  case extras =>
    intro extras hv
    rw [get?_extras_finish] at hv
    obtain ⟨extras', -, rfl⟩ := get?_changeList_eq_list.mp hv
    exact rankExtras_rankExtras extras'
  case groups => exact hgroups
  case notices =>
    -- The trip before its notices were blanked is the one with the copied description.
    refine ⟨Trip.groupTours (rankRecommendedExtras w₂.trip), ?_, ?_, ?_⟩
    · rw [hfinish, Workspace.get?_recommendInsurance _ (by decide), htrip]
    · rw [hfinish, Workspace.get?_recommendInsurance _ (by decide), htrip]
    · intro tours htours
      have hstored : get? "viatorTours" (rankRecommendedExtras w₂.trip) = some (.object tours) := by
        rw [rankRecommendedExtras_eq, get?_changeList_of_ne (by decide), ← htours]
        exact (get?_finish matcher w₂ (by decide)).symm
      rw [Trip.groupTours, hstored]
      exact get?_put_self
  case insurance =>
    rw [hfinish]
    exact Workspace.recommendInsurance?_recommendInsurance w'

end

/-! ### Once more -/

/-- The trip with no travelers shown in its bookings. -/
def forgetTravelers (trip : Fields) : Fields :=
  changeList "bookings" (List.map (changeFields (put "travelersText" (.text "")))) trip

lemma get?_forgetTravelers (h : "bookings" ≠ key) :
    get? key (forgetTravelers trip) = get? key trip :=
  get?_changeList_of_ne h

/-- Travelers do not take part in the timeline. -/
lemma timeline_forgetTravelers (now : Calendar.Moment) (trip : Fields) :
    timeline now (forgetTravelers trip) = timeline now trip := by
  unfold forgetTravelers changeList
  split
  · rw [timeline, timeline, voyage_put (by decide), get?_put_of_ne (by decide)]
  · rfl

lemma shownDocument_forgetTravelers (now : Calendar.Moment) (config trip : Fields) :
    shownDocument now config (forgetTravelers trip) =
      forgetTravelers (shownDocument now config trip) := by
  rw [shownDocument_eq, shownDocument_eq, timeline_forgetTravelers]
  simp only [forgetTravelers]
  rw [changeList_put (by decide), changeList_put (by decide)]

/-- What templates are told of the request depends on the details only. -/
lemma configFields_congr {trip' : Fields} (h : get? "meta" trip' = get? "meta" trip) :
    configFields request trip' = configFields request trip := by
  have hdetails : tripDetails trip' = tripDetails trip := by
    rw [tripDetails, tripDetails, objectAt, objectAt, h]
  simp only [configFields, reserveUrl, hdetails]

/-- Augmenting bookings that are shown loses their travelers. -/
lemma Workspace.augmentBookings_of_isShown {w : Workspace}
    (hshown : ∀ booking, HasItem "bookings" booking w.trip → IsShown booking)
    (hplans : PlansListed w.trip) :
    ∃ w', w.augmentBookings = .ok w' ∧ w'.trip = forgetTravelers w.trip := by
  by_cases hlist : ∃ bookings, get? "bookings" w.trip = some (.list bookings)
  · obtain ⟨bookings, hv⟩ := hlist
    have hall : augmentAll (insurancePlans w.trip) bookings =
        .ok (bookings.map (changeFields (put "travelersText" (.text "")))) := by
      rw [augmentAll_eq_ok_iff, List.forall₂_map_right_iff, List.forall₂_same]
      intro v hmem
      by_cases hobject : ∃ booking, v = .object booking
      · obtain ⟨booking, rfl⟩ := hobject
        exact .booking ((hshown booking ⟨bookings, hv, hmem⟩).augmentBooking_eq
          (hplans bookings booking hv hmem))
      · have hother : ∀ booking, v ≠ .object booking := fun booking hb => hobject ⟨booking, hb⟩
        have hsame : changeFields (put "travelersText" (.text "")) v = v := by
          cases v with
          | object booking => exact absurd rfl (hother booking)
          | _ => rfl
        rw [hsame]
        exact .other hother
    have haugmented : Trip.augmentBookings w.trip = .ok (forgetTravelers w.trip) := by
      simp only [Trip.augmentBookings, hv, hall, forgetTravelers, changeList_of_get? hv]
      rfl
    simp only [Workspace.augmentBookings, haugmented, hv]
    exact ⟨_, rfl, rfl⟩
  · have hno : ∀ items, get? "bookings" w.trip ≠ some (.list items) :=
      fun items hv => hlist ⟨items, hv⟩
    exact ⟨w, augmentBookings_of_not_list hno, (changeList_of_not_list hno).symm⟩

lemma showTours_nil (ports : List Text) (group : Value) :
    Workspace.showTours ports [] group = group := by
  unfold Workspace.showTours
  split
  · split
    · simp [get?]
    · rfl
  · rfl

/-- Tours are grouped by their ports. -/
lemma groupTours_of_get? {tours : Fields} (h : get? "viatorTours" trip = some (.object tours)) :
    groupTours trip = put "viatorToursDescription" (toursDescription tours)
      (put "viatorToursByPort" (.list (toursByPort tours)) trip) := by
  rw [groupTours, h]

/-- Tours are grouped anew, whatever live groups showed. -/
lemma groupTours_refreshTours (w : Workspace) :
    groupTours (forgetTravelers w.refreshTours.trip) = groupTours (forgetTravelers w.trip) := by
  rw [Workspace.trip_refreshTours]
  by_cases ht : ∃ tours, get? "viatorTours" w.trip = some (.object tours)
  · obtain ⟨tours, ht⟩ := ht
    have hforgotten : get? "viatorTours" (forgetTravelers w.trip) = some (.object tours) := by
      rw [get?_forgetTravelers (by decide), ht]
    rw [forgetTravelers, changeList_comm (by decide), ← forgetTravelers,
      groupTours_of_get? hforgotten, groupTours_of_get? (by
        rw [get?_changeList_of_ne (by decide), hforgotten]), put_changeList]
  · have hnone : objectAt "viatorTours" w.trip = [] := by
      unfold objectAt
      split
      · next tours hv => exact absurd ⟨tours, hv⟩ ht
      · rfl
    have hsame (items : List Value) : items.map (Workspace.showTours w.portsLive []) = items := by
      rw [funext (showTours_nil w.portsLive)]
      exact List.map_id' items
    rw [hnone, changeList_eq_self fun items _ => hsame items]

/-- Grouping tours that are grouped copies their description once more. -/
lemma ToursGrouped.groupTours_eq (h : ToursGrouped trip) :
    (∃ tours, get? "viatorTours" trip = some (.object tours) ∧
        groupTours trip = put "viatorToursDescription" (toursDescription tours) trip) ∨
      groupTours trip = trip := by
  by_cases ht : ∃ tours, get? "viatorTours" trip = some (.object tours)
  · obtain ⟨tours, ht⟩ := ht
    refine .inl ⟨tours, ht, ?_⟩
    rw [groupTours_of_get? ht, put_of_get? (h tours ht)]
  · refine .inr ?_
    unfold groupTours
    split
    · next tours hv => exact absurd ⟨tours, hv⟩ ht
    · rfl

variable {now : Calendar.Moment} {label : Text}

/-- A settled trip is prepared. -/
lemma IsSettled.prepared_eq (h : IsSettled request matcher trip) : prepared trip = trip := by
  have hdays : (sanitizeItinerary trip).1 = trip := by
    rw [fst_sanitizeItinerary]
    exact changeList_map_eq_self fun day hday => (h.days day hday).sanitizeDay_eq
  have hbookings : (clearPastedData trip).1 = trip := by
    rw [fst_clearPastedData]
    exact changeList_map_eq_self fun booking hb => (h.prose booking hb).clearedBooking_eq
  rw [prepared, hdays, hbookings, h.images.moveCabinImages]

/-- The last steps leave a settled trip whose travelers are forgotten. -/
lemma IsSettled.finish_eq (h : IsSettled request matcher w.trip) (hm : matcher "" = [])
    (htrip : w'.trip = forgetTravelers w.refreshTours.trip) :
    (w'.finish matcher [packagedPair]).trip = forgetTravelers w.trip := by
  have hranked : rankRecommendedExtras w'.trip = w'.trip := by
    rw [rankRecommendedExtras_eq]
    refine changeList_eq_self fun extras hv => h.extras extras ?_
    rwa [htrip, get?_forgetTravelers (by decide), Workspace.trip_refreshTours,
      get?_changeList_of_ne (by decide)] at hv
  have hgroups : ToursGrouped (forgetTravelers w.trip) := by
    intro tours ht
    rw [get?_forgetTravelers (by decide)] at ht ⊢
    exact h.groups tours ht
  obtain ⟨before, hdescription, hmeta, hcopied⟩ := h.notices
  rw [← get?_forgetTravelers (by decide)] at hdescription hmeta
  have hblanked : noticesBlanked matcher (groupTours (forgetTravelers w.trip)) =
      forgetTravelers w.trip := by
    rcases hgroups.groupTours_eq with ⟨tours, ht, heq⟩ | heq
    · rw [get?_forgetTravelers (by decide)] at ht
      rw [heq]
      exact noticesBlanked_put_description hdescription hmeta hm (hcopied tours ht)
    · rw [heq]
      exact noticesBlanked_again hdescription hmeta hm
  obtain ⟨w₃, hw₃, hfinish⟩ := Workspace.exists_finish matcher w'
  rw [hranked, htrip, groupTours_refreshTours, hblanked] at hw₃
  have hnone : recommendInsurance? w₃.trip = none := by
    rw [hw₃, recommendInsurance?_congr (get?_forgetTravelers (by decide))]
    exact h.insurance
  rw [hfinish, Workspace.recommendInsurance, hnone, hw₃]

lemma keepsPlans_refreshTours (w : Workspace) : KeepsPlans w.trip w.refreshTours.trip := by
  unfold Workspace.refreshTours
  split
  · exact keepsPlans_put (by decide) (by decide)
  · exact .refl w.trip

/-- Normalizing a settled trip shows it again, without travelers. -/
lemma IsSettled.normalize_eq {config : Fields} (h : IsSettled request matcher w.trip)
    (hm : matcher "" = []) (hpairs : request.settings.noticePairs = [packagedPair])
    (hconfig : configFields request w.trip = .ok config) :
    ∃ result, (w.normalize request matcher now label).outcome = .ok result ∧
      result.data = forgetTravelers (shownDocument now config w.trip) := by
  obtain ⟨n, hn⟩ := Trip.trackLinks_eq_ok_iff.mpr ⟨h.links, rfl⟩
  rw [h.tracked] at hn
  have hlinks : Workspace.trackLinks request.settings.partner (request.profile.map (·.affiliates))
      { w with trip := prepared w.trip } = .ok (w.refreshTours, n) := by
    rw [h.prepared_eq]
    exact Workspace.trackLinks_eq_ok_iff.mpr ⟨w.trip, n, hn, rfl⟩
  have hrefreshed : get? "bookings" w.refreshTours.trip = get? "bookings" w.trip := by
    rw [Workspace.trip_refreshTours, get?_changeList_of_ne (by decide)]
  obtain ⟨w₂, hbookings, htrip⟩ := w.refreshTours.augmentBookings_of_isShown
    (fun booking hb => h.bookings booking ((hasItem_congr hrefreshed).mp hb))
    (h.plans.of_keepsPlans (keepsPlans_refreshTours w))
  have hfinal : (w₂.finish matcher request.settings.noticePairs).trip = forgetTravelers w.trip := by
    rw [hpairs]
    exact h.finish_eq hm htrip
  have hconfig' : configFields request (w₂.finish matcher request.settings.noticePairs).trip =
      .ok config := by
    rw [hfinal, configFields_congr (get?_forgetTravelers (by decide)), hconfig]
  obtain ⟨result, hresult, hdata, -⟩ := (Workspace.normalize_eq_ok_iff (w := w)).mpr
    ⟨w.refreshTours, n, w₂, config, hlinks, hbookings, hconfig', rfl, rfl⟩
  refine ⟨result, hresult, ?_⟩
  rw [hdata, hfinal, shownDocument_forgetTravelers]

/-- The empty text holds no cue, whatever the phrases. -/
lemma keywordMatcher_empty (keywords : List Text) : keywordMatcher keywords "" = [] := by
  have hcues : ((keywords.filter fun keyword : Text => keyword ≠ "").map (Text.onString Text.lower)).filter
      (fun cue => Text.holds cue.toList []) = [] := by
    rw [List.filter_eq_nil_iff]
    intro cue hcue
    obtain ⟨keyword, hkeyword, rfl⟩ := List.mem_map.mp hcue
    have hne : keyword.toList ≠ [] := by
      simpa [Text.toList_eq_nil_iff] using (List.mem_filter.mp hkeyword).2
    have hlower := lower_ne_nil hne
    simp [Text.onString, Text.holds, Text.find?, hlower]
  exact congrArg distinct hcues

/-- With the packaged settings, normalizing the trip that was left behind once more gives the same
data but for the travelers that bookings show: their text is empty then. -/
theorem normalize_again {trip : Fields} {first : Normalized} (hs : request.settings = .packaged)
    (h : (normalize request (keywordMatcher Settings.packaged.noticeKeywords) now
      (.object trip)).outcome = .ok first) (label : Text) (hw : w.trip = first.workspace.trip) :
    ∃ second, (w.normalize request (keywordMatcher Settings.packaged.noticeKeywords) now
        label).outcome = .ok second ∧ second.data = forgetTravelers first.data := by
  have hm := keywordMatcher_empty Settings.packaged.noticeKeywords
  have hpairs : request.settings.noticePairs = [packagedPair] := by
    rw [hs]
    rfl
  have hd : request.settings.partner.domain ≠ "" := by
    rw [hs]
    decide
  obtain ⟨firstLabel, hlabel⟩ := exists_label_of_object request
    (keywordMatcher Settings.packaged.noticeKeywords) now trip
  rw [hlabel] at h
  obtain ⟨w₁, n, w₂, config, hlinks, hbookings, hconfig, hfinal, hdata⟩ :=
    Workspace.normalize_eq_ok_iff.mp ⟨first, h, rfl, rfl⟩
  rw [hpairs] at hconfig hfinal
  have hsettled : IsSettled request (keywordMatcher Settings.packaged.noticeKeywords) w.trip := by
    rw [hw, hfinal]
    exact isSettled_finish hlinks hbookings hd
  have hconfig : configFields request w.trip = .ok config := by
    rw [hw, hfinal, hconfig]
  rw [hdata, ← hw]
  exact hsettled.normalize_eq hm hpairs hconfig

/-- A trip with a booking for one traveler. -/
def guestTrip : Fields :=
  [("bookings", .list [.object [("travelers", .list [.text "Ana"])]])]

theorem normalize_again_guestTrip :
    ∃ first second,
      (normalize {} (keywordMatcher Settings.packaged.noticeKeywords)
        (.ofDate ⟨2026, 1, 1, by decide⟩) (.object guestTrip)).outcome = .ok first ∧
      (first.workspace.normalize {} (keywordMatcher Settings.packaged.noticeKeywords)
        (.ofDate ⟨2026, 1, 1, by decide⟩) "trip").outcome = .ok second ∧
      second.data = forgetTravelers first.data := by
  have hs : ({} : Request).settings = .packaged := rfl
  obtain ⟨first, h⟩ : ∃ first, (normalize {}
      (keywordMatcher Settings.packaged.noticeKeywords) (.ofDate ⟨2026, 1, 1, by decide⟩)
      (.object guestTrip)).outcome = .ok first := ⟨_, rfl⟩
  obtain ⟨second, hsecond, hdata⟩ := normalize_again hs h "trip" rfl
  exact ⟨first, second, h, hsecond, hdata⟩

/-- The name of the traveler shows the first time only. -/
theorem normalize_guestTrip_loses_travelers :
    ∃ first second,
      (normalize {} (keywordMatcher Settings.packaged.noticeKeywords)
        (.ofDate ⟨2026, 1, 1, by decide⟩) (.object guestTrip)).outcome = .ok first ∧
      (normalize {} (keywordMatcher Settings.packaged.noticeKeywords)
        (.ofDate ⟨2026, 1, 1, by decide⟩) (.object first.workspace.trip)).outcome = .ok second ∧
      second.data ≠ first.data := by
  refine ⟨_, _, rfl, rfl, fun h => ?_⟩
  have htexts := congrArg
    (fun data => (Fields.listAt "bookings" data).map (textField "travelersText")) h
  have hlost : ([""] : List Text) = (["Ana"] : List Text) := htexts
  exact absurd hlost (by decide)

end TripProposal.Trip
