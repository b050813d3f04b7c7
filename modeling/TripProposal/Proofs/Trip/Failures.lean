import TripProposal.Proofs.Trip.Bookings
import TripProposal.Proofs.Trip.CommentLinks
import TripProposal.Proofs.Trip.Normalization
import TripProposal.Proofs.Trip.Tracking

/-!
# Trips that cannot be normalized

Stored trips are loosely typed, and every step skips what has not the type that it looks for. So
normalizing fails for four reasons only: a link cannot be tracked, because it is no URL or has a
lone surrogate among its parameters, a balance is beyond the range of numbers, the comments are
counted by something that is no number, or the id of the trip has a lone surrogate.
-/

namespace TripProposal.Trip

open Fields Value Traversal

variable {trip fields : Fields} {v : Value}

/-! ### Links -/

/-- The values that are looked at as links: those of tours, excursions and recommended extras, and
those of the activities and excursions of a day. Activities that cannot be read are dropped
before. -/
inductive IsReadLink (trip : Fields) (v : Value) : Prop
  | tour {ports tour : Fields} {port : Text} {tours : List Value}
    (hports : get? "viatorTours" trip = some (.object ports))
    (hport : (port, .list tours) ∈ ports) (hname : port ≠ "description")
    (htour : .object tour ∈ tours)
    (hv : get? "url" tour = some v ∨ get? "bookingUrl" tour = some v)
  | excursion {excursion : Fields} (h : HasItem "excursions" excursion trip)
    (hv : get? "url" excursion = some v)
  | extra {extra : Fields} (h : HasItem "recommendedExtras" extra trip)
    (hv : get? "url" extra = some v)
  | activity {day activity : Fields} (hday : HasItem "itinerary" day trip)
    (h : HasItem "activities" activity day)
    (hworded : activityIsWorded (.object activity) = true) (hv : get? "url" activity = some v)
  | dayExcursion {day excursion : Fields} (hday : HasItem "itinerary" day trip)
    (h : HasItem "excursions" excursion day) (hv : get? "url" excursion = some v)

lemma mem_linkAt {key : Text} : v ∈ (linkAt key).values fields ↔ get? key fields = some v := by
  rw [values_linkAt, Option.mem_toList]

/-- Links of the items of a field. -/
lemma mem_linksAt {key : Text} {links : Traversal Fields} :
    v ∈ (linksAt key links).values fields ↔
      ∃ item, HasItem key item fields ∧ v ∈ links.values item := by
  simp only [linksAt, mem_values_field, mem_values_list, mem_values_object, HasItem]
  constructor
  · rintro ⟨_, hu, items, rfl, _, hmem, item, rfl, hv⟩
    exact ⟨item, ⟨items, hu, hmem⟩, hv⟩
  · rintro ⟨item, ⟨items, hu, hmem⟩, hv⟩
    exact ⟨_, hu, items, rfl, _, hmem, item, rfl, hv⟩

/-- A tour has two links. -/
lemma mem_tourLinks : v ∈ tourLinks.values fields ↔
    get? "url" fields = some v ∨ get? "bookingUrl" fields = some v := by
  have h : v ∈ tourLinks.values fields ↔
      v ∈ (linkAt "url").values fields ∨ v ∈ (linkAt "bookingUrl").values fields := mem_values_both
  rw [h, mem_linkAt, mem_linkAt]

/-- Links of tours are looked for in every port. -/
lemma mem_portLinks : v ∈ (portLinks.object.field "viatorTours").values trip ↔
    ∃ ports port tours tour, get? "viatorTours" trip = some (.object ports) ∧
      (port, .list tours) ∈ ports ∧ port ≠ "description" ∧ .object tour ∈ tours ∧
        (get? "url" tour = some v ∨ get? "bookingUrl" tour = some v) := by
  simp only [portLinks, mem_values_field, mem_values_object, mem_values_each,
    mem_values_entryExcept, mem_values_list, mem_tourLinks]
  constructor
  · rintro ⟨_, hports, ports, rfl, ⟨port, _⟩, hport, hname, tours, rfl, _, htour, tour, rfl, hv⟩
    exact ⟨ports, port, tours, tour, hports, hport, hname, htour, hv⟩
  · rintro ⟨ports, port, tours, tour, hports, hport, hname, htour, hv⟩
    exact ⟨_, hports, ports, rfl, _, hport, hname, tours, rfl, _, htour, tour, rfl, hv⟩

/-- A day has the links of its activities and excursions. -/
lemma mem_dayLinks : v ∈ dayLinks.values fields ↔
    (∃ activity, HasItem "activities" activity fields ∧ get? "url" activity = some v) ∨
      ∃ excursion, HasItem "excursions" excursion fields ∧ get? "url" excursion = some v := by
  have h : v ∈ dayLinks.values fields ↔ v ∈ (linksAt "activities" (linkAt "url")).values fields ∨
      v ∈ (linksAt "excursions" (linkAt "url")).values fields := mem_values_both
  simp only [h, mem_linksAt, mem_linkAt]

/-- The links of a trip stand in four places. -/
lemma mem_tripLinks : v ∈ tripLinks.values trip ↔
    v ∈ (portLinks.object.field "viatorTours").values trip ∨
      (∃ excursion, HasItem "excursions" excursion trip ∧ get? "url" excursion = some v) ∨
      (∃ extra, HasItem "recommendedExtras" extra trip ∧ get? "url" extra = some v) ∨
      ∃ day, HasItem "itinerary" day trip ∧ v ∈ dayLinks.values day := by
  have h : v ∈ tripLinks.values trip ↔ v ∈ (portLinks.object.field "viatorTours").values trip ∨
      v ∈ (linksAt "excursions" (linkAt "url")).values trip ∨
      v ∈ (linksAt "recommendedExtras" (linkAt "url")).values trip ∨
      v ∈ (linksAt "itinerary" dayLinks).values trip :=
    mem_values_both.trans (or_congr_right (mem_values_both.trans (or_congr_right mem_values_both)))
  simp only [h, mem_linksAt, mem_linkAt]

/-- The links that are tracked are those of the stored trip that can be read. -/
lemma mem_tripLinks_prepared : v ∈ tripLinks.values (prepared trip) ↔ IsReadLink trip v := by
  have hexcursions (excursion : Fields) : HasItem "excursions" excursion (prepared trip) ↔
      HasItem "excursions" excursion trip := hasItem_congr (get?_prepared (by decide))
  have hextras (extra : Fields) : HasItem "recommendedExtras" extra (prepared trip) ↔
      HasItem "recommendedExtras" extra trip := hasItem_congr (get?_prepared (by decide))
  have htours : get? "viatorTours" (prepared trip) = get? "viatorTours" trip :=
    get?_prepared (by decide)
  -- Preparing drops activities without words, so their links are not read.
  simp only [mem_tripLinks, mem_portLinks, mem_dayLinks, hasItem_itinerary_prepared, hexcursions,
    hextras, htours]
  constructor
  · rintro (⟨ports, port, tours, tour, hports, hport, hname, htour, hv⟩ | ⟨excursion, h, hv⟩ |
      ⟨extra, h, hv⟩ | ⟨_, ⟨day, hday, rfl⟩, ⟨activity, h, hv⟩ | ⟨excursion, h, hv⟩⟩)
    · exact .tour hports hport hname htour hv
    · exact .excursion h hv
    · exact .extra h hv
    · obtain ⟨h, hworded⟩ := hasItem_activities_sanitizeDay.mp h
      exact .activity hday h hworded hv
    · exact .dayExcursion hday ((hasItem_congr (get?_sanitizeDay (by decide))).mp h) hv
  · intro h
    cases h with
    | tour hports hport hname htour hv =>
      exact .inl ⟨_, _, _, _, hports, hport, hname, htour, hv⟩
    | excursion h hv => exact .inr (.inl ⟨_, h, hv⟩)
    | extra h hv => exact .inr (.inr (.inl ⟨_, h, hv⟩))
    | activity hday h hworded hv =>
      have h := hasItem_activities_sanitizeDay.mpr ⟨h, hworded⟩
      exact .inr (.inr (.inr ⟨_, ⟨_, hday, rfl⟩, .inl ⟨_, h, hv⟩⟩))
    | dayExcursion hday h hv =>
      have h := (hasItem_congr (get?_sanitizeDay (by decide))).mpr h
      exact .inr (.inr (.inr ⟨_, ⟨_, hday, rfl⟩, .inr ⟨_, h, hv⟩⟩))

/-- A text that is tracked and is no URL. -/
def IsNoUrl (v : Value) : Prop :=
  ∃ s fault, v = .text s ∧ s ≠ "" ∧ Url.split s.toList = .error fault

/-- A link to the partner that is to get parameters, when one of those that it has or gets has no
bytes. -/
def LacksBytes (partner : Partner) (codes : AffiliateCodes) (v : Value) : Prop :=
  ∃ s url, v = .text s ∧ s ≠ "" ∧ Url.split s.toList = .ok url ∧ partner.wants url = true ∧
    ¬ partner.HasBytes codes url

/-- Only a text that is no URL or has parameters without bytes cannot be tracked. -/
lemma not_trackable_iff {partner : Partner} {codes : AffiliateCodes} :
    ¬ partner.Trackable codes v ↔ IsNoUrl v ∨ LacksBytes partner codes v := by
  cases v with
  | text s =>
    cases hs : Url.split s.toList with
    | error fault => simp [Partner.Trackable, IsNoUrl, LacksBytes, hs]
    | ok url => simp [Partner.Trackable, IsNoUrl, LacksBytes, hs]
  | _ =>
    refine iff_of_false (not_not_intro trivial) ?_
    rintro (⟨_, _, h, -⟩ | ⟨_, _, h, -⟩) <;> cases h

/-! ### Tracking -/

variable {partner : Partner} {codes : Option AffiliateCodes}

/-- The links of a trip can be tracked, if they are tracked at all. -/
def LinksTrackable (partner : Partner) (codes : Option AffiliateCodes) (trip : Fields) : Prop :=
  ∀ c, codes = some c → c.partnerId.isFilled = true →
    ∀ v ∈ tripLinks.values trip, partner.Trackable c v

/-- The trip with its links tracked, if there is an advisor with a code. -/
def trackedTrip (partner : Partner) (codes : Option AffiliateCodes) (trip : Fields) : Fields :=
  match codes with
  | some c => if c.partnerId.isFilled then tripLinks.map (partner.tracked c) trip else trip
  | none => trip

/-- Without a code, no link is looked at. -/
lemma trackLinks_of_no_code (partner : Partner) (trip : Fields)
    (h : ¬ ∃ c, codes = some c ∧ c.partnerId.isFilled = true) :
    trackLinks partner codes trip = Except.ok (trip, 0) ∧
      trackedTrip partner codes trip = trip := by
  cases codes with
  | none => exact ⟨rfl, rfl⟩
  | some c =>
    have hc : ¬ c.partnerId.isFilled = true := fun hc => h ⟨c, rfl, hc⟩
    exact ⟨if_neg hc, if_neg hc⟩

/-- Links are tracked when they can be, and then nothing but links changes. -/
lemma trackLinks_eq_ok_iff {trip' : Fields} :
    (∃ n, trackLinks partner codes trip = Except.ok (trip', n)) ↔
      LinksTrackable partner codes trip ∧ trip' = trackedTrip partner codes trip := by
  by_cases hcode : ∃ c, codes = some c ∧ c.partnerId.isFilled = true
  · obtain ⟨c, rfl, hc⟩ := hcode
    have hwalk := follows_tagTrip (t := ⟨partner, c⟩) hc
    have hrun : trackLinks partner (some c) trip = Tracker.tagTrip ⟨partner, c⟩ trip := if_pos hc
    have htrip : trackedTrip partner (some c) trip = tripLinks.map (partner.tracked c) trip :=
      if_pos hc
    rw [hrun, htrip]
    constructor
    · rintro ⟨n, h⟩
      have ht := hwalk.trackable trip _ h
      obtain ⟨m, hm, -⟩ := hwalk.ok trip ht
      rw [hm] at h
      refine ⟨?_, (Prod.mk.inj (Except.ok.inj h)).1.symm⟩
      rintro _ ⟨⟩ -
      exact ht
    · rintro ⟨ht, rfl⟩
      obtain ⟨n, hn, -⟩ := hwalk.ok trip (ht c rfl hc)
      exact ⟨n, hn⟩
  · obtain ⟨hrun, htrip⟩ := trackLinks_of_no_code partner trip hcode
    rw [hrun, htrip]
    constructor
    · rintro ⟨n, h⟩
      refine ⟨?_, (Prod.mk.inj (Except.ok.inj h)).1.symm⟩
      intro c hc hfilled
      exact absurd ⟨c, hc, hfilled⟩ hcode
    · rintro ⟨-, rfl⟩
      exact ⟨0, rfl⟩

lemma get?_map_tripLinks {key : Text} (f : Value → Value)
    (h : key ∉ (["viatorTours", "excursions", "recommendedExtras", "itinerary"] : List Text)) :
    get? key (tripLinks.map f trip) = get? key trip := by
  simp only [List.mem_cons, List.not_mem_nil, or_false, not_or] at h
  obtain ⟨htours, hexcursions, hextras, hdays⟩ := h
  have hmap : tripLinks.map f trip = (linksAt "itinerary" dayLinks).map f
      ((linksAt "recommendedExtras" (linkAt "url")).map f ((linksAt "excursions" (linkAt "url")).map f
        ((portLinks.object.field "viatorTours").map f trip))) := rfl
  rw [hmap, linksAt, linksAt, linksAt, get?_map_field_of_ne (Ne.symm hdays),
    get?_map_field_of_ne (Ne.symm hextras), get?_map_field_of_ne (Ne.symm hexcursions),
    get?_map_field_of_ne (Ne.symm htours)]

/-- Tracking works on four fields. -/
lemma get?_trackedTrip {key : Text}
    (h : key ∉ (["viatorTours", "excursions", "recommendedExtras", "itinerary"] : List Text)) :
    get? key (trackedTrip partner codes trip) = get? key trip := by
  unfold trackedTrip
  split
  · split
    · exact get?_map_tripLinks _ h
    · rfl
  · rfl

namespace Workspace

variable {w w' : Workspace}

/-- Live groups of tours are brought up to date in their place. -/
lemma trip_refreshTours (w : Workspace) : w.refreshTours.trip = changeList "viatorToursByPort"
    (List.map (showTours w.portsLive (Fields.objectAt "viatorTours" w.trip))) w.trip := by
  unfold refreshTours
  split
  · next groups hv => rw [changeList_of_get? hv]
  · next hv => rw [changeList_of_not_list hv]

lemma trackLinks_eq_ok_iff {r : Workspace × Nat} :
    w.trackLinks partner codes = .ok r ↔ ∃ trip n,
      Trip.trackLinks partner codes w.trip = Except.ok (trip, n) ∧
        r = (refreshTours { w with trip := trip }, n) := by
  unfold Workspace.trackLinks
  cases h : Trip.trackLinks partner codes w.trip with
  | error fault => exact iff_of_false nofun nofun
  | ok found =>
    obtain ⟨trip, n⟩ := found
    constructor
    · intro hr
      exact ⟨trip, n, rfl, (Except.ok.inj hr).symm⟩
    · rintro ⟨trip', n', hr, rfl⟩
      obtain ⟨rfl, rfl⟩ := Prod.mk.inj (Except.ok.inj hr)
      rfl

/-- Tracking a workspace succeeds when the links of its trip can be tracked. -/
lemma exists_trackLinks (w : Workspace) :
    (∃ w' n, w.trackLinks partner codes = .ok (w', n)) ↔
      LinksTrackable partner codes w.trip := by
  constructor
  · rintro ⟨w', n, h⟩
    obtain ⟨trip, n, htrip, -⟩ := trackLinks_eq_ok_iff.mp h
    exact (Trip.trackLinks_eq_ok_iff.mp ⟨n, htrip⟩).1
  · intro h
    obtain ⟨n, htrip⟩ := Trip.trackLinks_eq_ok_iff.mpr ⟨h, rfl⟩
    exact ⟨_, n, trackLinks_eq_ok_iff.mpr ⟨_, n, htrip, rfl⟩⟩

lemma get?_bookings_trackLinks {n : Nat} (h : w.trackLinks partner codes = .ok (w', n)) :
    get? "bookings" w'.trip = get? "bookings" w.trip := by
  obtain ⟨trip, n, htrip, hr⟩ := trackLinks_eq_ok_iff.mp h
  obtain ⟨rfl, -⟩ := Prod.mk.inj hr
  obtain ⟨-, rfl⟩ := Trip.trackLinks_eq_ok_iff.mp ⟨n, htrip⟩
  rw [trip_refreshTours, get?_changeList_of_ne (by decide)]
  exact get?_trackedTrip (by decide)

end Workspace

/-! ### Comments -/

/-- A value that can be compared with zero. -/
def IsCount : Value → Prop
  | .bool _ | .int _ | .float _ => True
  | _ => False

/-- The summary of comments that is stored as these fields, the one of no comments without them. -/
def storedComments (summary : Option Fields) : CommentSummary :=
  (summary.map CommentSummary.ofFields).getD {}

/-- A count can be compared when it is a number. -/
lemma exists_isAboveZero (v : Value) : (∃ b, isAboveZero v = .ok b) ↔ IsCount v := by
  cases v <;> simp [isAboveZero, IsCount]

/-- Comments can be shown unless a count is asked for that is none. -/
lemma exists_toFields (comments : CommentSummary) : (∃ fields, comments.toFields = .ok fields) ↔
    (comments.hasComments.isNull = true → IsCount comments.count) := by
  rw [CommentSummary.toFields]
  cases hnull : comments.hasComments.isNull with
  | false => exact iff_of_true ⟨_, rfl⟩ nofun
  | true =>
    simp only [if_true, true_implies, ← exists_isAboveZero]
    cases isAboveZero comments.count with
    | error fault => exact iff_of_false nofun nofun
    | ok b => exact iff_of_true ⟨_, rfl⟩ ⟨_, rfl⟩

/-- The fields for templates can be computed when the comments can be linked and shown. -/
lemma exists_configFields (request : Request) (trip : Fields) :
    (∃ config, configFields request trip = .ok config) ↔
      (tripIdOfKey request.tripKey).isEncodable = true ∧
        (request.comments.hasComments.isNull = true → IsCount request.comments.count) := by
  rw [← exists_toFields, ← exists_commentThread request.settings.apiEndpoint, configFields]
  cases commentThread request.settings.apiEndpoint (tripIdOfKey request.tripKey) with
  | error fault => exact iff_of_false nofun nofun
  | ok thread =>
    cases request.comments.toFields with
    | error fault => exact iff_of_false nofun nofun
    | ok fields => exact iff_of_true ⟨_, rfl⟩ ⟨⟨_, rfl⟩, ⟨_, rfl⟩⟩

/-- Stored comments are counted by something that can be compared with zero, unless a filled value
is stored that cannot be. -/
lemma isCount_storedComments (summary : Option Fields) :
    IsCount (storedComments summary).count ↔
      ¬ ∃ fields v, summary = some fields ∧ get? "commentCount" fields = some v ∧
        v.isFilled = true ∧ ¬ IsCount v := by
  cases summary with
  | none => exact iff_of_true trivial nofun
  | some fields =>
    simp only [storedComments, Option.map_some, Option.getD_some, CommentSummary.ofFields,
      Value.filledOr, Option.some.injEq, exists_and_left, exists_eq_left']
    cases hv : get? "commentCount" fields with
    | none => simp [IsCount]
    | some v =>
      cases hf : v.isFilled with
      | false => simp [Value.filled?, hf, IsCount]
      | true => simp [Value.filled?, hf]

lemma isNull_storedComments (summary : Option Fields) :
    (storedComments summary).hasComments.isNull = true ↔
      ∀ fields, summary = some fields → (get? "hasComments" fields).getD .null = .null := by
  cases summary with
  | none => exact iff_of_true rfl nofun
  | some fields =>
    simp only [storedComments, Option.map_some, Option.getD_some, CommentSummary.ofFields,
      Option.some.injEq, forall_eq']
    cases (get? "hasComments" fields).getD .null <;> simp [Value.isNull]

/-! ### Normalizing -/

/-- What a proposal is made for when profile and comments are stored as these fields. -/
def storedRequest (settings : Settings) (tripKey : Text) (profile summary : Option Fields) :
    Request where
  profile := profile.map Profile.ofFields
  settings := settings
  tripKey := tripKey
  comments := storedComments summary

variable {request : Request} {matcher : NoticeMatcher} {now : Calendar.Moment}

/-- A trip is normalized when its links can be tracked, its balances are in the range of numbers,
its id has bytes and its comments can be counted. -/
lemma exists_normalize (trip : Fields) :
    (∃ result, (normalize request matcher now (.object trip)).outcome = .ok result) ↔
      LinksTrackable request.settings.partner (request.profile.map (·.affiliates)) (prepared trip) ∧
      (∀ booking, HasItem "bookings" booking (prepared trip) →
        ¬ ((get? "balance" booking).getD .null).IsBeyondRange) ∧
      (tripIdOfKey request.tripKey).isEncodable = true ∧
      (request.comments.hasComments.isNull = true → IsCount request.comments.count) := by
  -- Only three steps can fail; what one of them reads is untouched by the steps before it.
  obtain ⟨label, hlabel⟩ := exists_label_of_object request matcher now trip
  rw [hlabel]
  constructor
  · rintro ⟨result, h⟩
    obtain ⟨w₁, n, w₂, config, hlinks, hbookings, hconfig, -, -⟩ :=
      Workspace.normalize_eq_ok_iff.mp ⟨result, h, rfl, rfl⟩
    have hsame := Workspace.get?_bookings_trackLinks hlinks
    refine ⟨(Workspace.exists_trackLinks _).mp ⟨w₁, n, hlinks⟩, ?_,
      (exists_configFields request _).mp ⟨config, hconfig⟩⟩
    intro booking hb
    exact (Workspace.exists_augmentBookings w₁).mp ⟨w₂, hbookings⟩ booking
      ((hasItem_congr hsame).mpr hb)
  · rintro ⟨hlinks, hbookings, hconfig⟩
    obtain ⟨w₁, n, hlinks⟩ := (Workspace.exists_trackLinks
      { trip := prepared trip, plansLive := false, portsLive := [], descriptionLive := false }).mpr
        hlinks
    have hsame := Workspace.get?_bookings_trackLinks hlinks
    obtain ⟨w₂, hbookings⟩ := (Workspace.exists_augmentBookings w₁).mpr fun booking hb =>
      hbookings booking ((hasItem_congr hsame).mp hb)
    obtain ⟨config, hconfig⟩ := (exists_configFields request
      (w₂.finish matcher request.settings.noticePairs).trip).mpr hconfig
    obtain ⟨result, h, -⟩ := (Workspace.normalize_eq_ok_iff (w := ⟨trip, false, [], false⟩)).mpr
      ⟨w₁, n, w₂, config, hlinks, hbookings, hconfig, rfl, rfl⟩
    exact ⟨result, h⟩

/-- The links of a prepared trip can be tracked unless there is a code and one of the links that are
read is no URL or has parameters without bytes. -/
lemma linksTrackable_prepared (partner : Partner) (codes : Option AffiliateCodes) (trip : Fields) :
    LinksTrackable partner codes (prepared trip) ↔
      ¬ ∃ c v, codes = some c ∧ c.partnerId.isFilled = true ∧ IsReadLink trip v ∧
        (IsNoUrl v ∨ LacksBytes partner c v) := by
  simp only [LinksTrackable, mem_tripLinks_prepared, ← not_trackable_iff]
  constructor
  · rintro h ⟨c, v, hc, hfilled, hread, hno⟩
    exact hno (h c hc hfilled v hread)
  · intro h c hc hfilled v hread
    by_contra hno
    exact h ⟨c, v, hc, hfilled, hread, hno⟩

/-- Clearing pasted data leaves the balances. -/
lemma balances_prepared (trip : Fields) :
    (∀ booking, HasItem "bookings" booking (prepared trip) →
        ¬ ((get? "balance" booking).getD .null).IsBeyondRange) ↔
      ¬ ∃ booking balance, HasItem "bookings" booking trip ∧
        get? "balance" booking = some balance ∧ balance.IsBeyondRange := by
  constructor
  · rintro h ⟨booking, balance, hb, hv, hbeyond⟩
    have hcleared := hasItem_bookings_prepared.mpr ⟨booking, hb, rfl⟩
    refine h _ hcleared ?_
    rw [get?_clearedBooking (by decide), hv]
    exact hbeyond
  · intro h booking hb hbeyond
    obtain ⟨stored, hstored, rfl⟩ := hasItem_bookings_prepared.mp hb
    rw [get?_clearedBooking (by decide)] at hbeyond
    cases hv : get? "balance" stored with
    | none =>
      rw [hv] at hbeyond
      obtain ⟨n, hn, -⟩ := hbeyond
      cases hn
    | some balance =>
      rw [hv] at hbeyond
      exact h ⟨stored, balance, hstored, hv, hbeyond⟩

/-- Comments can be counted unless nothing says whether there are any and something is stored for
their number that is neither a number nor a flag. -/
lemma comments_stored (summary : Option Fields) :
    ((storedComments summary).hasComments.isNull = true → IsCount (storedComments summary).count) ↔
      ¬ ∃ fields count, summary = some fields ∧ (get? "hasComments" fields).getD .null = .null ∧
        get? "commentCount" fields = some count ∧ count.isFilled = true ∧ ¬ IsCount count := by
  rw [isNull_storedComments, isCount_storedComments]
  constructor
  · rintro h ⟨fields, count, rfl, hnull, hv, hfilled, hno⟩
    refine h ?_ ⟨fields, count, rfl, hv, hfilled, hno⟩
    rintro _ ⟨⟩
    exact hnull
  · rintro h hnull ⟨fields, count, rfl, hv, hfilled, hno⟩
    exact h ⟨fields, count, rfl, hnull fields rfl, hv, hfilled, hno⟩

/-- Normalizing a stored trip fails in four cases only: the advisor has a code and a link that is
read is no URL, or it is to get parameters and one of them has no bytes; the balance of a booking is
a whole number beyond the range of numbers; nothing says whether there are comments and something is
stored for their number that cannot be compared with zero; or the id of the trip has no bytes. -/
theorem normalize_fails_iff (settings : Settings) (tripKey : Text)
    (profile summary : Option Fields) (matcher : NoticeMatcher) (now : Calendar.Moment)
    (trip : Fields) :
    (∃ fault, (normalize (storedRequest settings tripKey profile summary) matcher now
        (.object trip)).outcome = .error fault) ↔
      (∃ advisor link, profile = some advisor ∧
        (Profile.ofFields advisor).affiliates.partnerId.isFilled = true ∧ IsReadLink trip link ∧
          (IsNoUrl link ∨
            LacksBytes settings.partner (Profile.ofFields advisor).affiliates link)) ∨
      (∃ booking balance, HasItem "bookings" booking trip ∧
        get? "balance" booking = some balance ∧ balance.IsBeyondRange) ∨
      (∃ fields count, summary = some fields ∧ (get? "hasComments" fields).getD .null = .null ∧
        get? "commentCount" fields = some count ∧ count.isFilled = true ∧ ¬ IsCount count) ∨
      (tripIdOfKey tripKey).isEncodable = false := by
  have hcodes : (∃ c v, (storedRequest settings tripKey profile summary).profile.map
        (·.affiliates) = some c ∧ c.partnerId.isFilled = true ∧ IsReadLink trip v ∧
          (IsNoUrl v ∨ LacksBytes settings.partner c v)) ↔
      ∃ advisor link, profile = some advisor ∧
        (Profile.ofFields advisor).affiliates.partnerId.isFilled = true ∧ IsReadLink trip link ∧
          (IsNoUrl link ∨
            LacksBytes settings.partner (Profile.ofFields advisor).affiliates link) := by
    cases profile <;> simp [storedRequest]
  have hcomments : (storedRequest settings tripKey profile summary).comments =
      storedComments summary := rfl
  have hsettings : (storedRequest settings tripKey profile summary).settings = settings := rfl
  have hkey : (storedRequest settings tripKey profile summary).tripKey = tripKey := rfl
  rw [exists_error_iff, exists_normalize, hsettings, hkey, linksTrackable_prepared,
    balances_prepared, hcodes, hcomments, comments_stored, ← Bool.not_eq_false,
    and_comm (a := ¬ (tripIdOfKey tripKey).isEncodable = false), ← not_or, ← not_or, ← not_or,
    not_not]

/-- A link to the partner with a lone surrogate among its parameters. -/
def surrogateLink : Text :=
  Text.ofList ("https://www.viator.com/?a=".codePoints ++ [.surrogate 0])

/-- A trip with that link to an extra. -/
def surrogateTrip : Fields :=
  [("recommendedExtras", .list [.object [("url", .text surrogateLink)]])]

/-- An advisor with a code. -/
def codedAdvisor : Fields :=
  [("affiliates", .object [("partnerId", .text "P1")])]

/-- All links are URLs, and there are neither bookings nor comments; still the trip cannot be
normalized. -/
theorem normalize_surrogateTrip_fails :
    (normalize (storedRequest .packaged "" (some codedAdvisor) none)
      (keywordMatcher Settings.packaged.noticeKeywords) (.ofDate ⟨2026, 1, 1, by decide⟩)
      (.object surrogateTrip)).outcome = .error (.link (.encoding ⟨[.surrogate 0]⟩)) ∧
    (∀ link, IsReadLink surrogateTrip link → ¬ IsNoUrl link) ∧
    ∀ booking, ¬ HasItem "bookings" booking surrogateTrip := by
  refine ⟨by with_unfolding_all rfl, ?_, ?_⟩
  · rintro link hlink ⟨s, fault, rfl, -, hsplit⟩
    rw [← mem_tripLinks_prepared] at hlink
    obtain rfl : s = surrogateLink := by
      have hvalues : tripLinks.values (prepared surrogateTrip) = [.text surrogateLink] := rfl
      rw [hvalues, List.mem_singleton] at hlink
      exact Value.text.inj hlink
    obtain ⟨url, hurl⟩ : ∃ url, Url.split surrogateLink.toList = .ok url := ⟨_, rfl⟩
    rw [hurl] at hsplit
    cases hsplit
  · rintro booking ⟨items, hitems, -⟩
    cases hitems

end TripProposal.Trip
