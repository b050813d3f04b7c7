import TripProposal.Proofs.Trip.Bookings
import TripProposal.Proofs.Value.Fields
import TripProposal.Trip.Normalize

/-!
# Views of a trip

Two parts of a normalized trip are views of others: the plans of insurance bookings list what the
insurance section offers, and the tours grouped by port list the stored tours. Here is which steps
leave the views and what they show alone, and which bring them up to date.
-/

namespace TripProposal.Trip

open Value

variable {trip trip' : Fields} {v w : Value}

/-! ### What the views show -/

/-- The stored tours are grouped by port. -/
def ToursGrouped (trip : Fields) : Prop :=
  ∀ tours, Fields.get? "viatorTours" trip = some (.object tours) →
    Fields.get? "viatorToursByPort" trip = some (.list (toursByPort tours))

/-- Bookings for insurance list the plans that the trip offers. -/
def PlansListed (trip : Fields) : Prop :=
  ∀ bookings booking, Fields.get? "bookings" trip = some (.list bookings) →
    .object booking ∈ bookings → isInsurance booking = true →
      Fields.get? "insurancePlans" booking = some (.list (insurancePlans trip))

/-- What the plans of bookings depend on is the same in two trips. -/
structure KeepsPlans (trip trip' : Fields) : Prop where
  bookings : ∀ items, Fields.get? "bookings" trip' = some (.list items) →
    Fields.get? "bookings" trip = some (.list items)
  plans : insurancePlans trip' = insurancePlans trip
  options : offersOptions trip' = offersOptions trip

/-- What the groups of tours depend on is the same in two trips. -/
structure KeepsTours (trip trip' : Fields) : Prop where
  tours : ∀ tours', Fields.get? "viatorTours" trip' = some (.object tours') →
    ∃ tours, Fields.get? "viatorTours" trip = some (.object tours) ∧
      toursByPort tours' = toursByPort tours
  groups : ∀ groups, Fields.get? "viatorToursByPort" trip = some (.list groups) →
    Fields.get? "viatorToursByPort" trip' = some (.list groups)

lemma KeepsPlans.refl (trip : Fields) : KeepsPlans trip trip :=
  ⟨fun _ h => h, rfl, rfl⟩

lemma KeepsTours.refl (trip : Fields) : KeepsTours trip trip :=
  ⟨fun tours h => ⟨tours, h, rfl⟩, fun _ h => h⟩

/-- Steps that keep the plans keep them together. -/
lemma KeepsPlans.trans {trip'' : Fields} (h : KeepsPlans trip trip')
    (h' : KeepsPlans trip' trip'') : KeepsPlans trip trip'' where
  bookings items hi := h.bookings items (h'.bookings items hi)
  plans := h'.plans.trans h.plans
  options := h'.options.trans h.options

lemma KeepsTours.trans {trip'' : Fields} (h : KeepsTours trip trip')
    (h' : KeepsTours trip' trip'') : KeepsTours trip trip'' where
  tours tours'' ht := by
    obtain ⟨tours', ht', heq⟩ := h'.tours tours'' ht
    obtain ⟨tours, ht, heq'⟩ := h.tours tours' ht'
    exact ⟨tours, ht, heq.trans heq'⟩
  groups groups hg := h'.groups groups (h.groups groups hg)

/-- Listed plans stay listed while the plans are kept. -/
lemma PlansListed.of_keepsPlans (h : PlansListed trip) (hk : KeepsPlans trip trip') :
    PlansListed trip' := by
  intro bookings booking hb hmem hi
  rw [hk.plans]
  exact h bookings booking (hk.bookings bookings hb) hmem hi

/-- Grouped tours stay grouped while the tours are kept. -/
lemma ToursGrouped.of_keepsTours (h : ToursGrouped trip) (hk : KeepsTours trip trip') :
    ToursGrouped trip' := by
  intro tours' ht
  obtain ⟨tours, ht, heq⟩ := hk.tours tours' ht
  rw [heq]
  exact hk.groups _ (h tours ht)

/-! ### Other fields -/

lemma insuranceSection_put {key : Text} (h : key ≠ "travelInsurance") :
    insuranceSection (Fields.put key v trip) = insuranceSection trip :=
  Fields.objectAt_put_of_ne h

lemma keepsPlans_put {key : Text} (hb : key ≠ "bookings") (hi : key ≠ "travelInsurance") :
    KeepsPlans trip (Fields.put key v trip) where
  bookings items h := by rwa [Fields.get?_put_of_ne hb] at h
  plans := by rw [insurancePlans, insurancePlans, insuranceSection_put hi]
  options := by rw [offersOptions, offersOptions, insuranceSection_put hi]

lemma keepsTours_put {key : Text} (ht : key ≠ "viatorTours") (hg : key ≠ "viatorToursByPort") :
    KeepsTours trip (Fields.put key v trip) where
  tours tours h := by
    rw [Fields.get?_put_of_ne ht] at h
    exact ⟨tours, h, rfl⟩
  groups groups h := by rwa [Fields.get?_put_of_ne hg]

/-! ### Edits of texts -/

lemma insurancePlans_eq (trip : Fields) :
    insurancePlans trip = (((Fields.get? "plans" (insuranceSection trip)).bind items?).orElse
      fun _ => (Fields.get? "options" (insuranceSection trip)).bind items?).getD [] := by
  unfold insurancePlans
  rcases Fields.get? "plans" (insuranceSection trip) with _ | plans
  · rcases Fields.get? "options" (insuranceSection trip) with _ | options
    · rfl
    · cases options <;> rfl
  · rcases Fields.get? "options" (insuranceSection trip) with _ | options
    · cases plans <;> rfl
    · cases plans <;> cases options <;> rfl

lemma offersOptions_eq (trip : Fields) :
    offersOptions trip = (((Fields.get? "plans" (insuranceSection trip)).bind items?).isNone &&
      ((Fields.get? "options" (insuranceSection trip)).bind items?).isSome) := by
  unfold offersOptions
  rcases Fields.get? "plans" (insuranceSection trip) with _ | plans
  · rcases Fields.get? "options" (insuranceSection trip) with _ | options
    · rfl
    · cases options <;> rfl
  · rcases Fields.get? "options" (insuranceSection trip) with _ | options
    · cases plans <;> rfl
    · cases plans <;> cases options <;> rfl

/-- Blanking a text keeps the plans. -/
lemma keepsPlans_textEdit (h : TextEdit (.object trip) (.object trip')) :
    KeepsPlans trip trip' := by
  have hsection := (h.objectAt "travelInsurance").items?_get?
  refine ⟨fun items hi => ?_, ?_, ?_⟩
  · obtain ⟨v, hv, hedit⟩ := h.get?_of_some hi
    rw [hv, hedit.of_list]
  · rw [insurancePlans_eq, insurancePlans_eq, insuranceSection, insuranceSection, hsection,
      hsection]
  · rw [offersOptions_eq, offersOptions_eq, insuranceSection, insuranceSection, hsection,
      hsection]

lemma portGroup?_description (v : Value) : portGroup? "description" v = none := by
  cases v <;> rfl

/-- Storing what gives the same group as before leaves the groups. -/
lemma toursByPort_put {port : Text} {tours : Fields}
    (h : (Fields.get? port tours).bind (portGroup? port) = portGroup? port v) :
    toursByPort (Fields.put port v tours) = toursByPort tours := by
  induction tours with
  | nil =>
    have h : portGroup? port v = none := h.symm
    simp [toursByPort, Fields.put, h]
  | cons tour tours ih =>
    obtain ⟨k, u⟩ := tour
    rw [Fields.get?] at h
    rw [Fields.put]
    by_cases hk : k = port
    · subst hk
      rw [if_pos rfl] at h ⊢
      have h : portGroup? k u = portGroup? k v := h
      simp only [toursByPort, List.filterMap_cons, h]
    · rw [if_neg hk] at h ⊢
      have hrest := ih h
      simp only [toursByPort, List.filterMap_cons] at hrest ⊢
      rw [hrest]

/-- Blanking a text leaves the ports of the tours. -/
lemma portGroup?_textEdit {port : Text} (h : TextEdit v w) :
    portGroup? port w = portGroup? port v := by
  cases h <;> rfl

lemma keepsTours_textEdit (h : TextEdit (.object trip) (.object trip')) :
    KeepsTours trip trip' where
  tours tours' ht := by
    obtain ⟨v, hv, hedit⟩ := h.get?_of_some ht
    obtain ⟨tours, rfl, hedit⟩ := hedit.of_object
    refine ⟨tours, hv, ?_⟩
    cases hedit with
    | refl => rfl
    | field hu hinner =>
      refine toursByPort_put ?_
      rw [hu]
      exact (portGroup?_textEdit hinner).symm
  groups groups hg := by
    obtain ⟨w, hw, hedit⟩ := h.get?_of_some' hg
    rw [hw, hedit.eq_of_list]

/-! ### Replacing a text -/

/-- Writing the stored description leaves the tours beside it. -/
lemma keepsTours_putDescription {tours : Value}
    (ht : Fields.get? "viatorTours" trip = some tours) :
    KeepsTours trip (Fields.put "viatorTours" (putAtPath v ["description"] tours) trip) where
  tours tours' h := by
    rw [Fields.get?_put_self] at h
    cases tours with
    | object tours =>
      obtain rfl : Fields.put "description" v tours = tours' := by simpa [putAtPath] using h
      refine ⟨tours, ht, toursByPort_put ?_⟩
      rw [portGroup?_description]
      cases Fields.get? "description" tours with
      | none => rfl
      | some u => exact portGroup?_description u
    | _ => cases h
  groups groups hg := by rwa [Fields.get?_put_of_ne (by decide)]

namespace Workspace

/-- Copying the description between its two places leaves plans and groups. -/
lemma keeps_copyDescription (trip : Fields) {source target : List Text}
    (ht : target = storedDescription ∨ target = shownDescription) :
    ∃ trip', copyPath source target (.object trip) = .object trip' ∧ KeepsPlans trip trip' ∧
      KeepsTours trip trip' := by
  rcases ht with rfl | rfl
  · cases hf : Fields.get? "viatorTours" trip with
    | none => exact ⟨trip, putAtPath_of_none hf, .refl _, .refl _⟩
    | some tours =>
      refine ⟨_, putAtPath_cons_cons hf, ?_, ?_⟩
      · exact keepsPlans_put (by decide) (by decide)
      · exact keepsTours_putDescription hf
  · refine ⟨_, putAtPath_singleton _ _ _, ?_, ?_⟩
    · exact keepsPlans_put (by decide) (by decide)
    · exact keepsTours_put (by decide) (by decide)

/-- Replacing a text leaves plans and groups, also when a live description follows it. -/
lemma keeps_putAtPath {w : Workspace} {path : List Text} {s : Text} (hp : path ≠ [])
    (h : (Value.object w.trip).atPath path = .text s) :
    KeepsPlans w.trip (w.putAtPath path (.text "")).trip ∧
      KeepsTours w.trip (w.putAtPath path (.text "")).trip := by
  have hedit := textEdit_putAtPath "" hp h
  obtain ⟨edited, hedited⟩ := hedit.object
  rw [hedited] at hedit
  have hplans := keepsPlans_textEdit hedit
  have htours := keepsTours_textEdit hedit
  have hcopy : ∀ {source target : List Text},
      target = storedDescription ∨ target = shownDescription →
        KeepsPlans w.trip (((copyPath source target (.object edited)).fields?).getD w.trip) ∧
          KeepsTours w.trip (((copyPath source target (.object edited)).fields?).getD w.trip) := by
    intro source target ht
    obtain ⟨copied, hcopied, hplans', htours'⟩ := keeps_copyDescription edited ht
    rw [hcopied]
    exact ⟨hplans.trans hplans', htours.trans htours'⟩
  simp only [Workspace.putAtPath, afterReplacing, hedited]
  split
  · exact hcopy (.inr rfl)
  · split
    · exact hcopy (.inl rfl)
    · exact ⟨hplans, htours⟩

/-- Views are up to date, and plans are live exactly when the trip offers its options. -/
structure UpToDate (w : Workspace) : Prop where
  tours : ToursGrouped w.trip
  plans : PlansListed w.trip
  /-- The plans follow the options. -/
  live : ∀ items, Fields.get? "bookings" w.trip = some (.list items) →
    w.plansLive = offersOptions w.trip

/-- The plans are options where the insurance has them and no plans. -/
lemma options_of_offersOptions (h : offersOptions trip = true) :
    ∃ options, Fields.get? "options" (insuranceSection trip) = some (.list options) := by
  unfold offersOptions at h
  split at h
  · cases h
  · next ho _ => exact ⟨_, ho⟩
  · cases h

lemma section_of_options {options : Value}
    (h : Fields.get? "options" (insuranceSection trip) = some options) :
    Fields.get? "travelInsurance" trip = some (.object (insuranceSection trip)) := by
  unfold insuranceSection Fields.objectAt at h ⊢
  split at h
  · next inner hf => rw [hf]
  · cases h

/-- A text stands in no place that live plans depend on. -/
lemma path_notMem_of_text {path : List Text} {items : List Value} {s : Text}
    (hb : Fields.get? "bookings" trip = some (.list items)) (ho : offersOptions trip = true)
    (h : (Value.object trip).atPath path = .text s) :
    path ∉ ([["bookings"], ["travelInsurance"], ["travelInsurance", "options"]] :
      List (List Text)) := by
  obtain ⟨options, hoptions⟩ := options_of_offersOptions ho
  have hsection := section_of_options hoptions
  intro hp
  simp only [List.mem_cons, List.not_mem_nil, or_false] at hp
  rcases hp with rfl | rfl | rfl
  · simp [atPath, fieldOrNull, field?, hb] at h
  · simp [atPath, fieldOrNull, field?, hsection] at h
  · simp [atPath, fieldOrNull, field?, hsection, hoptions] at h

/-- Blanking a notice keeps the views up to date. -/
lemma UpToDate.putAtPath {w : Workspace} (hw : w.UpToDate) {path : List Text} {s : Text}
    (hp : path ≠ []) (h : (Value.object w.trip).atPath path = .text s) :
    (w.putAtPath path (.text "")).UpToDate := by
  obtain ⟨hplans, htours⟩ := keeps_putAtPath hp h
  refine ⟨hw.tours.of_keepsTours htours, hw.plans.of_keepsPlans hplans, fun items hb => ?_⟩
  have hb := hplans.bookings items hb
  have hlive := hw.live items hb
  rw [hplans.options]
  show (w.plansLive && _) = _
  cases ho : offersOptions w.trip with
  | false => rw [hlive, ho, Bool.false_and]
  | true => rw [hlive, ho, Bool.true_and, decide_eq_true (path_notMem_of_text hb ho h)]

/-- A blanked field held a text. -/
lemma text_of_choice? {matcher : NoticeMatcher} {trip : Value} {pair : NoticePair} {choice : Choice}
    (h : choice? matcher trip pair = some choice) :
    ∃ s, trip.atPath (pathKeys choice.blanked) = .text s := by
  unfold choice? at h
  split at h
  · next first second hfirst hsecond =>
    split at h
    · cases h
    · split at h
      · obtain rfl := Option.some.inj h
        exact ⟨first, hfirst⟩
      · obtain rfl := Option.some.inj h
        exact ⟨second, hsecond⟩
  · cases h

/-- Blanking notices keeps views up to date, one pair after the other. -/
lemma UpToDate.blankNotices {matcher : NoticeMatcher} {pairs : List NoticePair} {w : Workspace}
    (hw : w.UpToDate) : (blankNotices matcher w pairs).1.UpToDate := by
  induction pairs generalizing w with
  | nil => exact hw
  | cons pair pairs ih =>
    rw [Trip.blankNotices]
    split
    · exact ih hw
    · next choice hc =>
      obtain ⟨s, hs⟩ := text_of_choice? hc
      exact ih (hw.putAtPath (pathKeys_ne_nil _) hs)

/-! ### Augmenting bookings -/

lemma isInsurance_congr {booking booking' : Fields}
    (h : Fields.get? "type" booking' = Fields.get? "type" booking) :
    isInsurance booking' = isInsurance booking := by
  rw [isInsurance, isInsurance, typeKey, typeKey, h]

lemma augmentBooking_spec {plans : List Value} {booking augmented : Fields}
    (h : augmentBooking plans booking = .ok augmented) :
    isInsurance augmented = isInsurance booking ∧
      Fields.get? "insurancePlans" augmented =
        some (.list (if isInsurance booking then plans else [])) := by
  obtain ⟨b, -, rfl⟩ := augmentBooking_eq_ok_iff.mp h
  refine ⟨isInsurance_congr ?_, ?_⟩
  · simp [Fields.putAll, bookingDisplay, Fields.get?_erase]
  · simp [Fields.putAll, bookingDisplay]

/-- An augmented booking for insurance lists the plans. -/
lemma plans_of_augmentAll {plans bookings augmented : List Value} {booking : Fields}
    (h : augmentAll plans bookings = .ok augmented) (hmem : .object booking ∈ augmented)
    (hi : isInsurance booking = true) :
    Fields.get? "insurancePlans" booking = some (.list plans) := by
  obtain ⟨v, -, hv⟩ := exists_of_mem_forall₂ (augmentAll_eq_ok_iff.mp h) hmem
  cases hv with
  | booking hbooking =>
    obtain ⟨hkind, hplans⟩ := augmentBooking_spec hbooking
    rw [hplans, ← hkind, hi]
    rfl
  | other hno => exact absurd rfl (hno booking)

/-- Augmented bookings list the plans, and follow them if they are the options. -/
lemma augmentBookings_spec {w w' : Workspace} (h : w.augmentBookings = .ok w') :
    PlansListed w'.trip ∧ ∀ items, Fields.get? "bookings" w'.trip = some (.list items) →
      w'.plansLive = offersOptions w'.trip := by
  rcases augmentBookings_cases h with ⟨bookings, augmented, -, haugmented, rfl⟩ | ⟨hno, rfl⟩
  · refine ⟨fun items booking hitems hmem hi => ?_, fun _ _ => ?_⟩
    · rw [Fields.get?_put_self] at hitems
      obtain rfl : augmented = items := by simpa using hitems
      rw [plans_of_augmentAll haugmented hmem hi, insurancePlans, insurancePlans,
        insuranceSection_put (by decide)]
    · rw [offersOptions, offersOptions, insuranceSection_put (by decide)]
  · exact ⟨fun items _ hitems => absurd hitems (hno items), fun items hitems =>
      absurd hitems (hno items)⟩

/-! ### Grouping tours -/

lemma keepsPlans_groupTours (trip : Fields) : KeepsPlans trip (Trip.groupTours trip) := by
  unfold Trip.groupTours
  split
  · exact (keepsPlans_put (by decide) (by decide)).trans (keepsPlans_put (by decide) (by decide))
  · exact .refl trip

/-- After grouping the tours are grouped. -/
lemma toursGrouped_groupTours (trip : Fields) : ToursGrouped (Trip.groupTours trip) := by
  unfold Trip.groupTours
  split
  · next tours ht =>
    intro tours' ht'
    rw [Fields.get?_put_of_ne (by decide), Fields.get?_put_of_ne (by decide), ht] at ht'
    obtain rfl : tours = tours' := by simpa using ht'
    rw [Fields.get?_put_of_ne (by decide), Fields.get?_put_self]
  · next ht => exact fun tours ht' => absurd ht' (ht tours)

lemma trip_groupTours (w : Workspace) : w.groupTours.trip = Trip.groupTours w.trip := by
  unfold Workspace.groupTours
  split
  · rfl
  · next ht =>
    unfold Trip.groupTours
    split
    · next tours ht' => exact absurd ht' (ht tours)
    · rfl

lemma plansLive_groupTours (w : Workspace) : w.groupTours.plansLive = w.plansLive := by
  unfold Workspace.groupTours
  split <;> rfl

/-- Grouping the tours brings all views up to date once the plans are. -/
lemma upToDate_groupTours {w : Workspace} (hplans : PlansListed w.trip)
    (hlive : ∀ items, Fields.get? "bookings" w.trip = some (.list items) →
      w.plansLive = offersOptions w.trip) : w.groupTours.UpToDate := by
  have hkeep := keepsPlans_groupTours w.trip
  refine ⟨?_, ?_, fun items hitems => ?_⟩
  · rw [trip_groupTours]
    exact toursGrouped_groupTours w.trip
  · rw [trip_groupTours]
    exact hplans.of_keepsPlans hkeep
  · rw [trip_groupTours] at hitems ⊢
    rw [plansLive_groupTours, hkeep.options]
    exact hlive items (hkeep.bookings items hitems)

/-! ### Recommending an option -/

/-- The trip with other insurance options. -/
def withOptions (options : List Value) (trip : Fields) : Fields :=
  Fields.put "travelInsurance"
    (.object (Fields.put "options" (.list options) (insuranceSection trip))) trip

/-- A recommendation changes the options. -/
lemma withOptions_of_recommendInsurance? (h : recommendInsurance? trip = some trip') :
    ∃ options options', Fields.get? "options" (insuranceSection trip) = some (.list options) ∧
      trip' = withOptions options' trip := by
  unfold recommendInsurance? at h
  split at h
  · next options ho =>
    obtain ⟨options', -, rfl⟩ := Option.map_eq_some_iff.mp h
    exact ⟨options, options', ho, rfl⟩
  · cases h

lemma insuranceSection_withOptions (options : List Value) (trip : Fields) :
    insuranceSection (withOptions options trip) =
      Fields.put "options" (.list options) (insuranceSection trip) :=
  Fields.objectAt_of_get? Fields.get?_put_self

lemma keepsTours_withOptions (options : List Value) (trip : Fields) :
    KeepsTours trip (withOptions options trip) :=
  keepsTours_put (by decide) (by decide)

lemma get?_bookings_withOptions (options : List Value) (trip : Fields) :
    Fields.get? "bookings" (withOptions options trip) = Fields.get? "bookings" trip :=
  Fields.get?_put_of_ne (by decide)

/-- Options are the plans when the trip has no separate plans. -/
lemma insurancePlans_withOptions {options : List Value} (h : offersOptions trip = true) :
    insurancePlans (withOptions options trip) = options := by
  rw [insurancePlans_eq, insuranceSection_withOptions, Fields.get?_put_self,
    Fields.get?_put_of_ne (by decide)]
  rw [offersOptions_eq, Bool.and_eq_true, Option.isNone_iff_eq_none] at h
  rw [h.1]
  rfl

/-- Separate plans do not depend on the options. -/
lemma insurancePlans_withOptions' {options options' : List Value}
    (ho : Fields.get? "options" (insuranceSection trip) = some (.list options))
    (h : offersOptions trip = false) :
    insurancePlans (withOptions options' trip) = insurancePlans trip := by
  rw [insurancePlans_eq, insurancePlans_eq, insuranceSection_withOptions, Fields.get?_put_self,
    Fields.get?_put_of_ne (by decide)]
  rw [offersOptions_eq, ho] at h
  cases hp : (Fields.get? "plans" (insuranceSection trip)).bind items? with
  | none => rw [hp] at h; cases h
  | some plans => rfl

/-- A booking for insurance that is shown the plans lists them. -/
lemma plans_of_showPlans {plans bookings : List Value} {booking : Fields}
    (hmem : .object booking ∈ bookings.map (showPlans plans)) (hi : isInsurance booking = true) :
    Fields.get? "insurancePlans" booking = some (.list plans) := by
  obtain ⟨v, -, hv⟩ := List.mem_map.mp hmem
  unfold showPlans at hv
  split at hv
  · next fields =>
    split at hv
    · obtain rfl := Value.object.inj hv
      exact Fields.get?_put_self
    · next hno =>
      obtain rfl := Value.object.inj hv
      exact absurd hi hno
  · next hother => exact absurd hv (hother booking)

/-- Recommending an option keeps the groups of tours, and the plans that bookings list follow. -/
lemma UpToDate.recommendInsurance {w : Workspace} (hw : w.UpToDate) :
    ToursGrouped w.recommendInsurance.1.trip ∧ PlansListed w.recommendInsurance.1.trip := by
  unfold Workspace.recommendInsurance
  split
  · next trip' hr =>
    obtain ⟨options, options', ho, rfl⟩ := withOptions_of_recommendInsurance? hr
    have htours := hw.tours.of_keepsTours (keepsTours_withOptions options' w.trip)
    unfold refreshPlans
    simp only [insuranceSection_withOptions, Fields.get?_put_self, get?_bookings_withOptions]
    split
    · next bookings options'' hlive hb hoptions =>
      obtain rfl : options' = options'' := by simpa using hoptions
      have hoffers : offersOptions w.trip = true := (hw.live bookings hb).symm.trans hlive
      refine ⟨htours.of_keepsTours (keepsTours_put (by decide) (by decide)), ?_⟩
      intro items booking hitems hmem hi
      rw [Fields.get?_put_self] at hitems
      obtain rfl : bookings.map (showPlans options') = items := by simpa using hitems
      rw [plans_of_showPlans hmem hi, insurancePlans, insuranceSection_put (by decide),
        ← insurancePlans, insurancePlans_withOptions hoffers]
    · next hno =>
      refine ⟨htours, fun items booking hitems hmem hi => ?_⟩
      rw [get?_bookings_withOptions] at hitems
      have hoffers : offersOptions w.trip = false := by
        rw [← hw.live items hitems, ← Bool.not_eq_true]
        exact fun hlive => hno items options' hlive hitems rfl
      rw [insurancePlans_withOptions' ho hoffers]
      exact hw.plans items booking hitems hmem hi
  · exact ⟨hw.tours, hw.plans⟩

end Workspace

end TripProposal.Trip
