import TripProposal.Proofs.Trip.Repetition
import TripProposal.Proofs.Value.Difference

/-!
# What normalizing leaves alone

Normalizing rebuilds days, bookings and extras, and still it changes a trip in few places. Each step
is followed in the lists that it works on; everything else stays as it was written.
-/

namespace TripProposal.Trip

open Fields Value Traversal

/-! ### Frames -/

/-- The fields of a trip that normalizing works on. -/
def normalizedFields : List Text :=
  ["itinerary", "bookings", "images", "cruiseInfo", "viatorTours", "excursions",
   "recommendedExtras", "viatorToursByPort", "viatorToursDescription", "meta", "travelInsurance",
   "unifiedTimeline", "_config"]

/-- The fields of an extra that tracking and ranking write. -/
def rankedNames : List Text :=
  ["url", "priority", "priorityClass", "badgeLabel"]

/-- The fields of a booking that clearing and augmenting write. -/
def bookingNames : List Text :=
  augmentedNames ++ (["details", "notes"] : List Text)

/-- A day stays as it was but for the activities, schedule and lodging that are dropped and for the
links of its activities and excursions. -/
structure DayFrame (day day' : Fields) : Prop where
  rest : SameExcept ["activities", "schedule", "lodging", "excursions"] day day'
  excursions : ItemsRelated (SameExcept ["url"]) (get? "excursions" day) (get? "excursions" day')

/-- Two values, if there are any, are the same, or lists of the same items in another order, the
objects among them being in a relation. -/
inductive ItemsReordered (R : Fields → Fields → Prop) : Option Value → Option Value → Prop
  | same (v : Option Value) : ItemsReordered R v v
  | list {items kept items' : List Value} (h : List.Forall₂ (ObjectsRelated R) items kept)
    (hperm : items'.Perm kept) : ItemsReordered R (some (.list items)) (some (.list items'))

/-- The details of a trip stay as they were but for the note, which may be blanked. -/
inductive NoteBlanked : Option Value → Option Value → Prop
  | same (v : Option Value) : NoteBlanked v v
  | note {details : Fields} {s : Text} (h : get? "selfBookingNote" details = some (.text s)) :
    NoteBlanked (some (.object details))
      (some (.object (put "selfBookingNote" (.text "") details)))

/-- The insurance of a trip stays as it was but for the mark of one option. -/
inductive OptionMarked : Option Value → Option Value → Prop
  | same (v : Option Value) : OptionMarked v v
  | option {insurance option : Fields} {options : List Value} {n : Nat}
    (hoptions : get? "options" insurance = some (.list options))
    (hoption : options[n]? = some (.object option)) :
    OptionMarked (some (.object insurance)) (some (.object (put "options"
      (.list (options.set n (.object (put "recommended" (.bool true) option)))) insurance)))

/-- What normalizing leaves of a trip. -/
structure NormalizationFrame (trip data : Fields) : Prop where
  rest : SameExcept normalizedFields trip data
  details : NoteBlanked (get? "meta" trip) (get? "meta" data)
  itinerary : ItemsRelated DayFrame (get? "itinerary" trip) (get? "itinerary" data)
  bookings : ItemsRelated (SameExcept bookingNames) (get? "bookings" trip) (get? "bookings" data)
  excursions : ItemsRelated (SameExcept ["url"]) (get? "excursions" trip) (get? "excursions" data)
  extras : ItemsReordered (SameExcept rankedNames) (get? "recommendedExtras" trip)
    (get? "recommendedExtras" data)
  insurance : OptionMarked (get? "travelInsurance" trip) (get? "travelInsurance" data)

variable {trip trip' day day' day'' fields : Fields} {key : Text} {v w : Value}
  {o o' o'' : Option Value} {f : Value → Value}

/-! ### Days -/

lemma DayFrame.trans (h : DayFrame day day') (h' : DayFrame day' day'') : DayFrame day day'' where
  rest := h.rest.trans h'.rest
  excursions := h.excursions.trans (fun _ _ _ => SameExcept.trans) h'.excursions

/-- Sanitizing stays within the frame of a day. -/
lemma dayFrame_sanitizeDay (day : Fields) : DayFrame day (sanitizeDay day).1 where
  rest := by
    have hsame : SameExcept ["activities", "schedule", "lodging"] day (sanitizeDay day).1 :=
      fun key hkey => get?_sanitizeDay hkey
    exact hsame.mono (by simp)
  excursions := by
    rw [get?_sanitizeDay (by decide)]
    exact .same _

lemma sameExcept_map_linkAt (key : Text) (f : Value → Value) (fields : Fields) :
    SameExcept [key] fields ((linkAt key).map f fields) := by
  intro other hother
  exact get?_map_linkAt (Ne.symm (List.ne_of_not_mem_cons hother)) f

/-- So does tracking its links. -/
lemma dayFrame_map_dayLinks (f : Value → Value) (day : Fields) :
    DayFrame day (dayLinks.map f day) := by
  rw [map_dayLinks_eq]
  constructor
  · intro key hkey
    simp only [List.mem_cons, List.not_mem_nil, or_false, not_or] at hkey
    rw [get?_changeList_of_ne (Ne.symm hkey.2.2.2), get?_changeList_of_ne (Ne.symm hkey.1)]
  · exact itemsRelated_changeList (sameExcept_map_linkAt "url" f) (get?_changeList_of_ne (by decide))

/-- The days of a prepared trip are those of the trip within their frame. -/
lemma itinerary_prepared (trip : Fields) :
    ItemsRelated DayFrame (get? "itinerary" trip) (get? "itinerary" (prepared trip)) := by
  rw [prepared, get?_moveCabinImages (by decide), fst_clearPastedData,
    get?_changeList_of_ne (by decide), fst_sanitizeItinerary]
  exact itemsRelated_changeList dayFrame_sanitizeDay rfl

/-! ### Links -/

/-- What changing the links makes of a list holds after tracking, which changes them or nothing. -/
lemma itemsRelated_trackedTrip {R : Fields → Fields → Prop}
    (h : ∀ f, ItemsRelated R (get? key trip) (get? key (tripLinks.map f trip)))
    (partner : Partner) (codes : Option AffiliateCodes) :
    ItemsRelated R (get? key trip) (get? key (trackedTrip partner codes trip)) := by
  unfold trackedTrip
  split
  · split
    · exact h _
    · exact .same _
  · exact .same _

lemma itinerary_trackedTrip (partner : Partner) (codes : Option AffiliateCodes) (trip : Fields) :
    ItemsRelated DayFrame (get? "itinerary" trip)
      (get? "itinerary" (trackedTrip partner codes trip)) := by
  refine itemsRelated_trackedTrip (fun f => ?_) partner codes
  rw [map_tripLinks_eq]
  refine itemsRelated_changeList (dayFrame_map_dayLinks f) ?_
  rw [get?_changeList_of_ne (by decide), get?_changeList_of_ne (by decide),
    get?_map_field_of_ne (by decide)]

lemma extras_trackedTrip (partner : Partner) (codes : Option AffiliateCodes) (trip : Fields) :
    ItemsRelated (SameExcept ["url"]) (get? "recommendedExtras" trip)
      (get? "recommendedExtras" (trackedTrip partner codes trip)) := by
  refine itemsRelated_trackedTrip (fun f => ?_) partner codes
  rw [map_tripLinks_eq, get?_changeList_of_ne (by decide)]
  refine itemsRelated_changeList (sameExcept_map_linkAt "url" f) ?_
  rw [get?_changeList_of_ne (by decide), get?_map_field_of_ne (by decide)]

lemma excursions_trackedTrip (partner : Partner) (codes : Option AffiliateCodes) (trip : Fields) :
    ItemsRelated (SameExcept ["url"]) (get? "excursions" trip)
      (get? "excursions" (trackedTrip partner codes trip)) := by
  refine itemsRelated_trackedTrip (fun f => ?_) partner codes
  rw [map_tripLinks_eq, get?_changeList_of_ne (by decide), get?_changeList_of_ne (by decide)]
  refine itemsRelated_changeList (sameExcept_map_linkAt "url" f) ?_
  rw [get?_map_field_of_ne (by decide)]

/-! ### Bookings -/

lemma bookings_prepared (trip : Fields) : ItemsRelated (SameExcept bookingNames)
    (get? "bookings" trip) (get? "bookings" (prepared trip)) := by
  have hcleared : ∀ booking, SameExcept bookingNames booking (clearedBooking booking) := by
    intro booking key hkey
    exact get?_clearedBooking fun hmem => hkey (List.mem_append_right _ hmem)
  rw [prepared, get?_moveCabinImages (by decide), fst_clearPastedData, fst_sanitizeItinerary]
  exact itemsRelated_changeList hcleared (get?_changeList_of_ne (by decide))

lemma AugmentsTo.objectsRelated {plans : List Value} (h : AugmentsTo plans v w) :
    ObjectsRelated (SameExcept bookingNames) v w := by
  cases h with
  | booking haug =>
    refine .object fun key hkey => ?_
    exact get?_augmentBooking haug fun hmem => hkey (List.mem_append_left _ hmem)
  | other => exact .same v

/-- Augmented bookings have their other fields. -/
lemma bookings_augmentBookings {w w' : Workspace} (h : w.augmentBookings = .ok w') :
    ItemsRelated (SameExcept bookingNames) (get? "bookings" w.trip) (get? "bookings" w'.trip) := by
  rcases Workspace.augmentBookings_cases h with ⟨bookings, augmented, hv, haugmented, rfl⟩ | ⟨-, rfl⟩
  · rw [hv, get?_put_self]
    exact .list ((augmentAll_eq_ok_iff.mp haugmented).imp fun _ _ => AugmentsTo.objectsRelated)
  · exact .same _

/-- Recommending an option changes no more of a booking than its plans. -/
lemma bookings_recommendInsurance (w : Workspace) : ItemsRelated (SameExcept bookingNames)
    (get? "bookings" w.trip) (get? "bookings" w.recommendInsurance.1.trip) := by
  have hshow : ∀ plans booking, SameExcept bookingNames booking
      (if isInsurance booking then put "insurancePlans" (.list plans) booking else booking) := by
    intro plans booking
    split
    · exact .put (by decide) _ _
    · exact .refl _ _
  rcases Workspace.recommendInsurance_cases w with ⟨-, hw⟩ | ⟨trip, htrip, hw⟩
  · rw [hw]
    exact .same _
  · have hsame : get? "bookings" trip = get? "bookings" w.trip :=
      Workspace.get?_recommendInsurance? htrip (by decide)
    rw [hw]
    rcases Workspace.trip_refreshPlans { w with trip := trip } with htrip | ⟨plans, htrip⟩
    · rw [htrip, hsame]
      exact .same _
    · rw [htrip, Workspace.showPlans_eq]
      exact itemsRelated_changeList (hshow plans) hsame

/-! ### Extras -/

lemma objectsRelated_withPriority (v : Value) :
    ObjectsRelated (SameExcept rankedNames) v (withPriority v) := by
  have h := shownAs_withPriority v
  generalize withPriority v = shown at h ⊢
  cases h with
  | object rest => exact .object (rest.mono (by simp [priorityNames, rankedNames]))
  | other => exact .same v

/-- Ranking orders the extras and changes no more of an extra than what its priority decides. -/
lemma extras_ranked (trip : Fields) : ItemsReordered (SameExcept rankedNames)
    (get? "recommendedExtras" trip)
    (get? "recommendedExtras" (changeList "recommendedExtras" rankExtras trip)) := by
  by_cases hlist : ∃ extras, get? "recommendedExtras" trip = some (.list extras)
  · obtain ⟨extras, hv⟩ := hlist
    rw [changeList_of_get? hv, get?_put_self, hv]
    refine .list ?_ (List.mergeSort_perm _ _)
    rw [List.forall₂_map_right_iff, List.forall₂_same]
    exact fun v _ => objectsRelated_withPriority v
  · rw [changeList_of_not_list fun extras hv => hlist ⟨extras, hv⟩]
    exact .same _

/-- Items may be changed before they are reordered. -/
lemma ItemsReordered.of_itemsRelated
    (h : ItemsRelated (SameExcept rankedNames) o o')
    (h' : ItemsReordered (SameExcept rankedNames) o' o'') :
    ItemsReordered (SameExcept rankedNames) o o'' := by
  cases h with
  | same => exact h'
  | list hitems =>
    cases h' with
    | same => exact .list hitems (.refl _)
    | list hkept hperm =>
      refine .list ?_ hperm
      exact forall₂_trans (.trans fun _ _ _ => SameExcept.trans) hitems hkept

/-! ### Details and insurance -/

/-- Of the details a note is blanked at most. -/
lemma details_noticesBlanked (matcher : NoticeMatcher) (trip : Fields) :
    NoteBlanked (get? "meta" trip) (get? "meta" (noticesBlanked matcher trip)) := by
  cases hc : choice? matcher (.object trip) packagedPair with
  | none =>
    rw [noticesBlanked_of_none hc]
    exact .same _
  | some choice =>
    rcases blanked_of_choice? hc with hb | hb
    · rw [noticesBlanked_of_description hc hb, get?_put_of_ne (by decide)]
      exact .same _
    · obtain ⟨details, s, hmeta, hnote, heq⟩ := noticesBlanked_of_note hc hb
      rw [heq, get?_put_self, hmeta]
      exact .note hnote

/-- The options of a trip are those of an object. -/
lemma exists_insurance {options : List Value}
    (h : get? "options" (insuranceSection trip) = some (.list options)) :
    get? "travelInsurance" trip = some (.object (insuranceSection trip)) := by
  unfold insuranceSection objectAt at h ⊢
  split at h
  · next inner hv => rw [hv]
  · cases h

/-- Of the insurance an option is marked at most. -/
lemma optionMarked_recommendInsurance? (h : recommendInsurance? trip = some trip') :
    OptionMarked (get? "travelInsurance" trip) (get? "travelInsurance" trip') := by
  unfold recommendInsurance? at h
  split at h
  · next options ho =>
    obtain ⟨options', hmiddle, rfl⟩ := Option.map_eq_some_iff.mp h
    unfold recommendMiddle? at hmiddle
    split at hmiddle
    · cases hmiddle
    · split at hmiddle
      · next middle hoption =>
        obtain rfl := Option.some.inj hmiddle
        rw [get?_put_self, exists_insurance ho]
        exact .option ho hoption
      · cases hmiddle
  · cases h

lemma insurance_recommendInsurance (w : Workspace) :
    OptionMarked (get? "travelInsurance" w.trip)
      (get? "travelInsurance" w.recommendInsurance.1.trip) := by
  rcases Workspace.recommendInsurance_cases w with ⟨-, hw⟩ | ⟨trip, htrip, hw⟩
  · rw [hw]
    exact .same _
  · rw [hw, Workspace.get?_refreshPlans _ (by decide)]
    exact optionMarked_recommendInsurance? htrip

/-! ### All steps -/

section Steps

variable {request : Request} {n : Nat} {w w₁ w₂ : Workspace}
  (hlinks : Workspace.trackLinks request.settings.partner (request.profile.map (·.affiliates))
    { w with trip := prepared w.trip } = .ok (w₁, n))
  (hbookings : w₁.augmentBookings = .ok w₂)

include hlinks

lemma bookings_trackLinks :
    ItemsRelated (SameExcept bookingNames) (get? "bookings" w.trip) (get? "bookings" w₁.trip) := by
  rw [get?_trackLinks hlinks (by decide), get?_trackedTrip (by decide)]
  exact bookings_prepared w.trip

include hbookings

/-- The steps up to the bookings work on few fields. -/
lemma get?_augmented (h : key ∉ (["itinerary", "bookings", "images", "cruiseInfo", "viatorTours",
      "excursions", "recommendedExtras", "viatorToursByPort"] : List Text)) :
    get? key w₂.trip = get? key w.trip := by
  simp only [List.mem_cons, List.not_mem_nil, or_false, not_or] at h
  rw [Workspace.get?_augmentBookings hbookings (by simp [h, eq_comm]),
    get?_trackLinks hlinks (by simp [h, eq_comm]), get?_trackedTrip (by simp [h]),
    get?_prepared (by simp [h])]

/-- The frame of all steps that change the trip. -/
lemma normalizationFrame_finish (matcher : NoticeMatcher) :
    NormalizationFrame w.trip (w₂.finish matcher [packagedPair]).trip := by
  have hframe {key : Text} (h : key ∉ finishedFields) :=
    get?_finish_tracked hlinks hbookings matcher h
  -- The last step may mark an option in place, so the trip before it is needed by name.
  obtain ⟨w', htrip, hfinish⟩ := Workspace.exists_finish matcher w₂
  constructor
  case rest =>
    intro key hkey
    simp only [normalizedFields, List.mem_cons, List.not_mem_nil, or_false, not_or] at hkey
    rw [hframe (by simp [finishedFields, hkey]), get?_trackedTrip (by simp [hkey]),
      get?_prepared (by simp [hkey])]
  case details =>
    -- No step before the notices are blanked touches the details.
    have hsame : get? "meta" (Trip.groupTours (rankRecommendedExtras w₂.trip)) =
        get? "meta" w.trip := by
      rw [get?_groupTours (by decide), rankRecommendedExtras_eq, get?_changeList_of_ne (by decide),
        get?_augmented hlinks hbookings (by decide)]
    have hblanked :=
      details_noticesBlanked matcher (Trip.groupTours (rankRecommendedExtras w₂.trip))
    rwa [hsame, ← htrip, ← Workspace.get?_recommendInsurance w' (by decide), ← hfinish]
      at hblanked
  case itinerary =>
    rw [hframe (by decide)]
    exact (itinerary_prepared w.trip).trans (fun _ _ _ => DayFrame.trans)
      (itinerary_trackedTrip _ _ _)
  case bookings =>
    have hsame : get? "bookings" w'.trip = get? "bookings" w₂.trip := by
      rw [htrip, get?_noticesBlanked (by decide), get?_groupTours (by decide),
        rankRecommendedExtras_eq, get?_changeList_of_ne (by decide)]
    have hmarked := bookings_recommendInsurance w'
    rw [hsame, ← hfinish] at hmarked
    have htrans : ∀ booking booking' booking'', SameExcept bookingNames booking booking' →
        SameExcept bookingNames booking' booking'' → SameExcept bookingNames booking booking'' :=
      fun _ _ _ => SameExcept.trans
    -- Bookings change in three steps: tracking, augmenting, and the recommendation.
    exact ((bookings_trackLinks hlinks).trans htrans (bookings_augmentBookings hbookings)).trans
      htrans hmarked
  case excursions =>
    have htracked := excursions_trackedTrip request.settings.partner
      (request.profile.map (·.affiliates)) (prepared w.trip)
    rw [get?_prepared (by decide)] at htracked
    rwa [hframe (by decide)]
  case extras =>
    have htracked := extras_trackedTrip request.settings.partner
      (request.profile.map (·.affiliates)) (prepared w.trip)
    rw [get?_prepared (by decide), ← get?_trackLinks hlinks (by decide),
      ← Workspace.get?_augmentBookings hbookings (by decide)] at htracked
    have hranked := extras_ranked w₂.trip
    rw [← get?_extras_finish matcher w₂] at hranked
    refine .of_itemsRelated (htracked.mono fun _ _ h => h.mono ?_) hranked
    simp [rankedNames]
  case insurance =>
    have hsame : get? "travelInsurance" w'.trip = get? "travelInsurance" w.trip := by
      rw [htrip, get?_noticesBlanked (by decide), get?_groupTours (by decide),
        rankRecommendedExtras_eq, get?_changeList_of_ne (by decide),
        get?_augmented hlinks hbookings (by decide)]
    have hmarked := insurance_recommendInsurance w'
    rwa [hsame, ← hfinish] at hmarked

end Steps

lemma get?_shownDocument {now : Calendar.Moment} {config : Fields}
    (h : key ∉ (["unifiedTimeline", "_config"] : List Text)) :
    get? key (shownDocument now config trip) = get? key trip := by
  simp only [List.mem_cons, List.not_mem_nil, or_false, not_or] at h
  rw [shownDocument_eq, get?_put_of_ne (Ne.symm h.2), get?_put_of_ne (Ne.symm h.1)]

/-- What is shown beside a trip is beside its fields. -/
lemma NormalizationFrame.shownDocument (h : NormalizationFrame trip trip') (now : Calendar.Moment)
    (config : Fields) : NormalizationFrame trip (shownDocument now config trip') := by
  constructor
  case rest =>
    intro key hkey
    have hshown : (["unifiedTimeline", "_config"] : List Text) ⊆ normalizedFields := by decide
    rw [get?_shownDocument fun hmem => hkey (hshown hmem), h.rest key hkey]
  all_goals rw [get?_shownDocument (by decide)]
  case details => exact h.details
  case itinerary => exact h.itinerary
  case bookings => exact h.bookings
  case excursions => exact h.excursions
  case extras => exact h.extras
  case insurance => exact h.insurance

/-- With the packaged settings, normalizing changes a trip within its frame. -/
theorem normalize_frame {request : Request} {matcher : NoticeMatcher} {now : Calendar.Moment}
    {result : Normalized} (hs : request.settings = .packaged)
    (h : (normalize request matcher now (.object trip)).outcome = .ok result) :
    NormalizationFrame trip result.data := by
  have hpairs : request.settings.noticePairs = [packagedPair] := by
    rw [hs]
    rfl
  obtain ⟨label, hlabel⟩ := exists_label_of_object request matcher now trip
  rw [hlabel] at h
  obtain ⟨w₁, n, w₂, config, hlinks, hbookings, -, hfinal, hdata⟩ :=
    Workspace.normalize_eq_ok_iff.mp ⟨result, h, rfl, rfl⟩
  rw [hpairs] at hfinal
  rw [hdata, hfinal]
  exact (normalizationFrame_finish hlinks hbookings matcher).shownDocument now config

/-- A trip with one recommended extra. -/
def spaTrip : Fields :=
  [("clientName", .text "Ana"), ("recommendedExtras", .list [.object [("name", .text "Spa")]])]

theorem normalize_frame_spaTrip :
    ∃ result, (normalize {} (keywordMatcher Settings.packaged.noticeKeywords)
        (.ofDate ⟨2026, 1, 1, by decide⟩) (.object spaTrip)).outcome = .ok result ∧
      NormalizationFrame spaTrip result.data := by
  have hs : ({} : Request).settings = .packaged := rfl
  obtain ⟨result, h⟩ : ∃ result, (normalize {}
      (keywordMatcher Settings.packaged.noticeKeywords) (.ofDate ⟨2026, 1, 1, by decide⟩)
      (.object spaTrip)).outcome = .ok result := ⟨_, rfl⟩
  exact ⟨result, h, normalize_frame hs h⟩

/-- An extra does not stay as it is: it is given the fields that its priority decides. -/
theorem normalize_spaTrip_changes_extras :
    ∃ result, (normalize {} (keywordMatcher Settings.packaged.noticeKeywords)
        (.ofDate ⟨2026, 1, 1, by decide⟩) (.object spaTrip)).outcome = .ok result ∧
      ¬ (listAt "recommendedExtras" result.data).Perm (listAt "recommendedExtras" spaTrip) := by
  refine ⟨_, rfl, fun h => ?_⟩
  have hranked : rankExtras [.object [("name", .text "Spa")]] =
      [withPriority (.object [("name", .text "Spa")])] :=
    List.mergeSort_singleton _
  have hsame : rankExtras [.object [("name", .text "Spa")]] = [.object [("name", .text "Spa")]] :=
    List.perm_singleton.mp h
  rw [hranked] at hsame
  have hlengths := congrArg (List.map fun extra => (extra.fields?.getD []).length) hsame
  exact absurd hlengths (by decide)

end TripProposal.Trip
