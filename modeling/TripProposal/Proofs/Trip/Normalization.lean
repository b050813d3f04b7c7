import TripProposal.Proofs.Outcomes
import TripProposal.Proofs.Trip.Preparation
import TripProposal.Proofs.Trip.Views

/-!
# Normalized trips

A normalized trip agrees with itself: whatever the steps did to what a view shows, the view shows
the same in the end, and the timeline is that of the final trip.
-/

namespace TripProposal

/-- Work in sequence yields a value when both parts do. -/
lemma Logged.outcome_bind {ε α β : Type} {work : Logged ε α} {next : α → Logged ε β} {b : β}
    (h : (work >>= next).outcome = .ok b) :
    ∃ a, work.outcome = .ok a ∧ (next a).outcome = .ok b := by
  change (work.andThen next).outcome = .ok b at h
  unfold Logged.andThen at h
  cases hw : work.outcome with
  | error fault => rw [hw] at h; cases h
  | ok a =>
    rw [hw] at h
    exact ⟨a, rfl, h⟩

lemma Logged.outcome_bind_of_ok {ε α β : Type} {work : Logged ε α} {next : α → Logged ε β} {a : α}
    (h : work.outcome = .ok a) : (work >>= next).outcome = (next a).outcome := by
  change (work.andThen next).outcome = _
  rw [Logged.andThen, h]

namespace Trip

open Calendar

variable {request : Request} {matcher : NoticeMatcher} {now : Moment}

/-! ### The steps in order -/

/-- The workspace after extras, tours, notices and insurance are worked on. -/
def Workspace.finish (matcher : NoticeMatcher) (pairs : List NoticePair) (w : Workspace) :
    Workspace :=
  (blankNotices matcher (w.change fun trip => (rankRecommendedExtras trip, ())).1.groupTours
    pairs).1.recommendInsurance.1

/-- A workspace is normalized when its links can be tracked, its bookings augmented and its
comments counted. -/
lemma Workspace.normalize_eq_ok_iff {label : Text} {w final : Workspace} {data : Fields} :
    (∃ result, (w.normalize request matcher now label).outcome = .ok result ∧
        result.data = data ∧ result.workspace = final) ↔
      ∃ w₁ n w₂ config,
        Workspace.trackLinks request.settings.partner (request.profile.map (·.affiliates))
          { w with trip := prepared w.trip } = .ok (w₁, n) ∧
        w₁.augmentBookings = .ok w₂ ∧
        configFields request (w₂.finish matcher request.settings.noticePairs).trip = .ok config ∧
        final = w₂.finish matcher request.settings.noticePairs ∧
        data = shownDocument now config final.trip := by
  unfold Workspace.normalize
  constructor
  · rintro ⟨result, h, rfl, rfl⟩
    obtain ⟨⟨w₁, n⟩, hlinks, h⟩ := Logged.outcome_bind h
    obtain ⟨_, -, h⟩ := Logged.outcome_bind h
    obtain ⟨w₂, hbookings, h⟩ := Logged.outcome_bind h
    obtain ⟨_, -, h⟩ := Logged.outcome_bind h
    obtain ⟨config, hconfig, h⟩ := Logged.outcome_bind h
    obtain ⟨_, -, h⟩ := Logged.outcome_bind h
    obtain rfl := Except.ok.inj h
    exact ⟨w₁, n, w₂, config, mapError_eq_ok.mp hlinks, mapError_eq_ok.mp hbookings,
      mapError_eq_ok.mp hconfig, rfl, rfl⟩
  · rintro ⟨w₁, n, w₂, config, hlinks, hbookings, hconfig, rfl, rfl⟩
    rw [Logged.outcome_bind_of_ok (mapError_eq_ok.mpr hlinks), Logged.outcome_bind_of_ok rfl,
      Logged.outcome_bind_of_ok (mapError_eq_ok.mpr hbookings), Logged.outcome_bind_of_ok rfl,
      Logged.outcome_bind_of_ok (mapError_eq_ok.mpr hconfig), Logged.outcome_bind_of_ok rfl]
    exact ⟨_, rfl, rfl, rfl⟩

/-- An object has a label, so that it is normalized as a workspace. -/
lemma exists_label_of_object (request : Request) (matcher : NoticeMatcher) (now : Moment)
    (trip : Fields) :
    ∃ label, normalize request matcher now (.object trip) =
      Workspace.normalize request matcher now label ⟨trip, false, [], false⟩ := by
  have hlabel : ∃ label, tripLabel? request.tripKey (.object trip) = some label := by
    unfold tripLabel?
    split
    · exact ⟨_, rfl⟩
    · dsimp only
      split <;> exact ⟨_, rfl⟩
  obtain ⟨label, hlabel⟩ := hlabel
  refine ⟨label, ?_⟩
  unfold normalize
  rw [hlabel]

/-- A normalized trip shows a workspace that was finished after its bookings were augmented. -/
lemma exists_of_normalize {trip : Value} {result : Normalized}
    (h : (normalize request matcher now trip).outcome = .ok result) :
    ∃ (w w' : Workspace) (config : Fields), w.augmentBookings = .ok w' ∧
      result.data = shownDocument now config
        (w'.finish matcher request.settings.noticePairs).trip := by
  unfold normalize at h
  split at h
  · obtain ⟨w, n, w', config, -, hbookings, -, hfinal, hdata⟩ :=
      Workspace.normalize_eq_ok_iff.mp ⟨result, h, rfl, rfl⟩
    rw [hfinal] at hdata
    exact ⟨w, w', config, hbookings, hdata⟩
  · cases h

/-- Ranking extras leaves the plans. -/
lemma keepsPlans_rankRecommendedExtras (trip : Fields) :
    KeepsPlans trip (rankRecommendedExtras trip) := by
  unfold rankRecommendedExtras
  split
  · exact keepsPlans_put (by decide) (by decide)
  · exact .refl trip

/-- Once the bookings are augmented, the remaining steps leave all views up to date. -/
lemma finish_spec {w w' : Workspace} (matcher : NoticeMatcher) (pairs : List NoticePair)
    (h : w.augmentBookings = .ok w') :
    ToursGrouped (w'.finish matcher pairs).trip ∧ PlansListed (w'.finish matcher pairs).trip := by
  obtain ⟨hplans, hlive⟩ := Workspace.augmentBookings_spec h
  have hrank := keepsPlans_rankRecommendedExtras w'.trip
  refine (Workspace.UpToDate.blankNotices ?_).recommendInsurance
  refine Workspace.upToDate_groupTours (hplans.of_keepsPlans hrank) fun items hitems => ?_
  exact (hlive items (hrank.bookings items hitems)).trans hrank.options.symm

/-! ### The timeline -/

/-- Other fields do not take part in the timeline. -/
lemma voyage_put {key : Text} {v : Value} {trip : Fields}
    (h : key ∉ (["dates", "ports", "cruiseInfo", "lodging", "flights"] : List Text)) :
    Voyage.ofTrip now (Fields.put key v trip) = Voyage.ofTrip now trip := by
  simp only [List.mem_cons, List.not_mem_nil, or_false, not_or] at h
  simp [Voyage.ofTrip, tripYear, startYear?, portsInUse, h]

lemma shownDocument_eq (config trip : Fields) :
    shownDocument now config trip = Fields.put "_config" (.object config)
      (Fields.put "unifiedTimeline" (.list (timeline now trip)) trip) := rfl

/-- The timeline does not show itself or the configuration. -/
lemma timeline_shownDocument (config trip : Fields) :
    timeline now (shownDocument now config trip) = timeline now trip := by
  rw [shownDocument_eq, timeline, timeline, voyage_put (by decide), voyage_put (by decide)]
  simp

lemma get?_unifiedTimeline (config trip : Fields) :
    Fields.get? "unifiedTimeline" (shownDocument now config trip) =
      some (.list (timeline now trip)) := by
  rw [shownDocument_eq, Fields.get?_put_of_ne (by decide), Fields.get?_put_self]

lemma keepsPlans_shownDocument (config trip : Fields) :
    KeepsPlans trip (shownDocument now config trip) :=
  (keepsPlans_put (by decide) (by decide)).trans (keepsPlans_put (by decide) (by decide))

lemma keepsTours_shownDocument (config trip : Fields) :
    KeepsTours trip (shownDocument now config trip) :=
  (keepsTours_put (by decide) (by decide)).trans (keepsTours_put (by decide) (by decide))

/-! ### Agreement -/

/-- The views of a normalized trip show what they are views of: the groups of tours, the plans
that bookings for insurance list, and the timeline. -/
theorem normalize_views {trip : Value} {result : Normalized}
    (h : (normalize request matcher now trip).outcome = .ok result) :
    (∀ tours, Fields.get? "viatorTours" result.data = some (.object tours) →
      Fields.get? "viatorToursByPort" result.data = some (.list (toursByPort tours))) ∧
    (∀ bookings booking, Fields.get? "bookings" result.data = some (.list bookings) →
      .object booking ∈ bookings → isInsurance booking = true →
        Fields.get? "insurancePlans" booking = some (.list (insurancePlans result.data))) ∧
    Fields.get? "unifiedTimeline" result.data = some (.list (timeline now result.data)) := by
  obtain ⟨w, w', config, hw, hdata⟩ := exists_of_normalize h
  obtain ⟨htours, hplans⟩ := finish_spec matcher request.settings.noticePairs hw
  rw [hdata]
  refine ⟨?_, ?_, ?_⟩
  · exact htours.of_keepsTours (keepsTours_shownDocument config _)
  · exact hplans.of_keepsPlans (keepsPlans_shownDocument config _)
  · rw [timeline_shownDocument, get?_unifiedTimeline]

/-- A trip with two insurance options, of which the second one is recommended when the trip is
normalized, after its booking lists both. -/
def insuredTrip : Fields :=
  [("viatorTours", .object [("kotor", .list [])]),
   ("travelInsurance", .object [("options", .list [.object [], .object []])]),
   ("bookings", .list [.object [("type", .text "insurance")]])]

/-- A trip with insurance options and a tour. -/
theorem normalize_insuredTrip :
    ∃ result, (normalize {} (fun _ => []) (.ofDate ⟨2026, 1, 1, by decide⟩)
        (.object insuredTrip)).outcome = .ok result ∧
      insurancePlans result.data = [.object [], .object [("recommended", .bool true)]] ∧
      Fields.get? "viatorToursByPort" result.data =
        some (.list (toursByPort [("kotor", .list [])])) ∧
      ∀ bookings booking, Fields.get? "bookings" result.data = some (.list bookings) →
        .object booking ∈ bookings → isInsurance booking = true →
          Fields.get? "insurancePlans" booking = some (.list (insurancePlans result.data)) := by
  refine ⟨_, rfl, rfl, ?_⟩
  obtain ⟨htours, hplans, -⟩ := @normalize_views {} (fun _ => [])
    (.ofDate ⟨2026, 1, 1, by decide⟩) (.object insuredTrip) _ rfl
  exact ⟨htours _ rfl, hplans⟩

end Trip

end TripProposal
