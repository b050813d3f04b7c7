import TripProposal.Proofs.Url.Split
import TripProposal.Trip.Tracking

/-!
# Tracked links

A tracked link splits into the parts of the link that it was made from, with the tracking
parameters behind its own. So it leads to the partner and has the partner id, and tracking it
again changes nothing.
-/

namespace TripProposal

open Text Url

/-! ### Domains -/

lemma lowerOf_ne_nil (before : List CodePoint) (c : CodePoint) (after : List CodePoint) :
    Text.lowerOf before c after ≠ [] := by
  unfold Text.lowerOf
  split
  · simp
  · split
    · simp
    · split <;> simp

lemma lower_ne_nil {text : List CodePoint} (h : text ≠ []) : lower text ≠ [] := by
  cases text with
  | nil => exact absurd rfl h
  | cons c text =>
    rw [lower, Text.lowerFrom]
    simp [lowerOf_ne_nil]

namespace Partner

variable {partner : Partner} {codes : AffiliateCodes}

/-- The partner owns its domain and what is below it. -/
lemma owns_iff {url : Url} : partner.owns url = true ↔
    url.host = lower partner.domain.toList ∨
      ∃ sub, url.host = sub ++ .char '.' :: lower partner.domain.toList := by
  simp only [owns, isWithin, Bool.or_eq_true, beq_iff_eq, List.isSuffixOf_iff_suffix]
  exact or_congr_right ⟨fun ⟨sub, h⟩ => ⟨sub, h.symm⟩, fun ⟨sub, h⟩ => ⟨sub, h.symm⟩⟩

/-- A query is tracked when it names the partner id. -/
lemma isTracked_iff {query : Query} : partner.isTracked query = true ↔
    ∃ value, (partner.idParam.toList, value) ∈ query := by
  simp only [isTracked, List.any_eq_true, beq_iff_eq, Prod.exists]
  constructor
  · rintro ⟨name, value, h, rfl⟩
    exact ⟨value, h⟩
  · rintro ⟨value, h⟩
    exact ⟨_, value, h, rfl⟩

/-- A URL of the partner has a location. -/
lemma location_ne_of_owns {url : Url} (hd : partner.domain ≠ "") (h : partner.owns url = true) :
    url.location ≠ [] := by
  intro hl
  have hdomain : lower partner.domain.toList ≠ [] := by
    exact lower_ne_nil fun hnil => hd (Text.toList_eq_nil_iff.mp hnil)
  have hhost : url.host = [] := by
    rw [Url.host, hl]
    rfl
  rw [owns, hhost, isWithin] at h
  cases hl' : lower partner.domain.toList with
  | nil => exact hdomain hl'
  | cons c domain =>
    rw [hl'] at h
    simp [List.isSuffixOf] at h

/-! ### Tracked URLs -/

/-- Whether the parameters that a URL has and those that it would get have bytes. -/
def HasBytes (partner : Partner) (codes : AffiliateCodes) (url : Url) : Prop :=
  ∀ pair ∈ Query.parse url.query ++ partner.trackingPairs codes, IsEncodable pair

/-- A URL has another query, which was written from the given one. -/
def IsRewritten (url : Url) (query : Query) (url' : Url) : Prop :=
  ∃ written, query.print = .ok written ∧ url' = { url with query := written }

lemma trackedUrl_eq_ok_iff {url url' : Url} : partner.trackedUrl codes url = .ok url' ↔
    IsRewritten url (Query.parse url.query ++ partner.trackingPairs codes) url' := by
  rw [trackedUrl, map_eq_ok_iff, IsRewritten]
  exact exists_congr fun written => and_congr_right fun _ => eq_comm

/-- A URL is tracked when its parameters have bytes, and only then. -/
lemma exists_trackedUrl_iff {url : Url} :
    (∃ url', partner.trackedUrl codes url = .ok url') ↔ partner.HasBytes codes url := by
  constructor
  · rintro ⟨url', h⟩
    obtain ⟨written, hprint, -⟩ := trackedUrl_eq_ok_iff.mp h
    exact (Query.print_eq_ok_iff.mp hprint).1
  · exact fun h => ⟨_, trackedUrl_eq_ok_iff.mpr ⟨_, Query.print_eq_ok_iff.mpr ⟨h, rfl⟩, rfl⟩⟩

lemma located_of_isRewritten {url url' : Url} {query : Query} (h : Located url)
    (hurl : IsRewritten url query url') : Located url' := by
  obtain ⟨written, hprint, rfl⟩ := hurl
  exact {
    scheme := h.scheme
    location_ne := h.location_ne
    location := h.location
    brackets := h.brackets
    delimiters := h.delimiters
    path_head := h.path_head
    path := h.path
    query := notMem_of_print (by decide) (by decide) (by decide) hprint
    kept := fun c hc => by
      have hkept := h.kept c
      simp only [List.mem_append] at hc hkept
      rcases hc with ((hc | hc) | hc) | hc
      · exact hkept (.inl (.inl (.inl hc)))
      · exact hkept (.inl (.inl (.inr hc)))
      · by_contra hno
        simp only [isKept, Bool.and_eq_true, bne_iff_ne, not_and_or, ne_eq, not_not] at hno
        rcases hno with (rfl | rfl) | rfl
        all_goals exact notMem_of_print (by decide) (by decide) (by decide) hprint hc
      · exact hkept (.inr hc) }

/-- The tracking parameters name the partner id. -/
lemma isTracked_append_trackingPairs (query : Query) :
    partner.isTracked (query ++ partner.trackingPairs codes) = true := by
  simp [isTracked, trackingPairs]

/-- The query of a tracked URL has the partner id. -/
lemma isTracked_of_trackedUrl {url url' : Url} (h : partner.trackedUrl codes url = .ok url') :
    partner.isTracked (Query.parse url'.query) = true := by
  obtain ⟨written, hprint, rfl⟩ := trackedUrl_eq_ok_iff.mp h
  rw [Query.parse_of_print hprint]
  exact isTracked_append_trackingPairs _

/-! ### Tracked links -/

lemma wants_iff {url : Url} : partner.wants url = true ↔
    partner.owns url = true ∧ partner.isTracked (Query.parse url.query) = false := by
  simp [wants]

/-- Links that need no parameters stay. -/
lemma track_of_not_wants {link : Text} {url : Url} (h : Url.split link.toList = .ok url)
    (hw : partner.wants url = false) : partner.track codes link = .ok link := by
  rw [track, h]
  show (if partner.wants url = true then _ else _) = _
  rw [if_neg (by simp [hw])]
  rfl

/-- Links that need them get them, if they have bytes. -/
lemma track_of_wants {link : Text} {url : Url} (h : Url.split link.toList = .ok url)
    (hw : partner.wants url = true) : partner.track codes link =
      ((partner.trackedUrl codes url).mapError .encoding).map fun url' => Text.ofList url'.join := by
  rw [track, h]
  show (if partner.wants url = true then _ else _) = _
  rw [if_pos hw]
  cases partner.trackedUrl codes url <;> rfl

/-- A tracked link of the partner splits into the parts it was joined from. -/
lemma split_of_trackedUrl (hd : partner.domain ≠ "") {link : Text} {url url' : Url}
    (h : Url.split link.toList = .ok url) (ho : partner.owns url = true)
    (ht : partner.trackedUrl codes url = .ok url') :
    Url.split (Text.ofList url'.join).toList = .ok url' := by
  rw [Text.toList_ofList]
  exact split_join (located_of_isRewritten (located_of_split h (location_ne_of_owns hd ho))
    (trackedUrl_eq_ok_iff.mp ht))

/-- A link of the partner becomes a link of the partner with the partner id, for good. -/
lemma track_of_owns (hd : partner.domain ≠ "") {link : Text} {url : Url}
    (h : Url.split link.toList = .ok url) (ho : partner.owns url = true)
    (hbytes : partner.wants url = true → partner.HasBytes codes url) :
    ∃ link' url', partner.track codes link = .ok link' ∧ Url.split link'.toList = .ok url' ∧
      partner.isTracked (Query.parse url'.query) = true ∧
        partner.track codes link' = .ok link' := by
  cases ht : partner.isTracked (Query.parse url.query) with
  | true =>
    have hlink : partner.track codes link = .ok link :=
      track_of_not_wants h (by simp [wants, ht])
    exact ⟨link, url, hlink, h, ht, hlink⟩
  | false =>
    have hw := wants_iff.mpr ⟨ho, ht⟩
    obtain ⟨url', hurl'⟩ := exists_trackedUrl_iff.mpr (hbytes hw)
    have hsplit := split_of_trackedUrl hd h ho hurl'
    have htracked := isTracked_of_trackedUrl hurl'
    refine ⟨_, url', by rw [track_of_wants h hw, hurl']; rfl, hsplit, htracked, ?_⟩
    exact track_of_not_wants hsplit (by simp [wants, htracked])

lemma track_of_not_owns {link : Text} {url : Url} (h : Url.split link.toList = .ok url)
    (ho : partner.owns url = false) : partner.track codes link = .ok link :=
  track_of_not_wants h (by simp [wants, ho])

/-! ### Tracked values -/

/-- A value after tracking. -/
def tracked (partner : Partner) (codes : AffiliateCodes) (v : Value) : Value :=
  match partner.trackValue codes v with
  | .ok w => w
  | .error _ => v

/-- Whether a value is no text, or a text that can be split as a URL and gets only parameters that
have bytes. -/
def Trackable (partner : Partner) (codes : AffiliateCodes) : Value → Prop
  | .text s => s = "" ∨ ∃ url, Url.split s.toList = .ok url ∧
      (partner.wants url = true → partner.HasBytes codes url)
  | _ => True

/-- Whether a value is a link to the partner's domain or to one of its subdomains. -/
def IsOwned (partner : Partner) (v : Value) : Prop :=
  ∃ s url, v = .text s ∧ Url.split s.toList = .ok url ∧
    (url.host = lower partner.domain.toList ∨
      ∃ sub, url.host = sub ++ .char '.' :: lower partner.domain.toList)

variable {v w : Value}

lemma trackValue_empty : partner.trackValue codes (.text "") = .ok (.text "") := by
  unfold trackValue
  cases codes.partnerId.isFilled <;> rfl

/-- With a code, texts are tracked as links. -/
lemma trackValue_text {s : Text} (hc : codes.partnerId.isFilled = true) (hs : s ≠ "") :
    partner.trackValue codes (.text s) = (partner.track codes s).map .text := by
  unfold trackValue
  rw [hc]
  exact if_neg hs

/-- Without one, they stay. -/
lemma trackValue_of_no_code (hc : codes.partnerId.isFilled = false) :
    partner.trackValue codes v = .ok v := by
  unfold trackValue
  rw [hc]

/-- What was tracked could be tracked. -/
lemma trackable_of_trackValue (hc : codes.partnerId.isFilled = true)
    (h : partner.trackValue codes v = .ok w) : partner.Trackable codes v := by
  cases v with
  | text s =>
    by_cases hs : s = ""
    · exact .inl hs
    · rw [trackValue_text hc hs] at h
      obtain ⟨s', hs', rfl⟩ := map_eq_ok_iff.mp h
      obtain ⟨url, hsplit, -⟩ := bind_eq_ok_iff.mp hs'
      have hsplit := mapError_eq_ok.mp hsplit
      refine .inr ⟨url, hsplit, fun hw => ?_⟩
      rw [track_of_wants hsplit hw] at hs'
      obtain ⟨url', htracked, -⟩ := map_eq_ok_iff.mp hs'
      exact exists_trackedUrl_iff.mp ⟨url', mapError_eq_ok.mp htracked⟩
  | _ => trivial

/-- The empty text is no link to the partner. -/
lemma ne_empty_of_owns (hd : partner.domain ≠ "") {s : Text} {url : Url}
    (h : Url.split s.toList = .ok url) (ho : partner.owns url = true) : s ≠ "" := by
  rintro rfl
  have hurl : Url.split (Text.toList "") = .ok ⟨[], [], [], [], []⟩ := rfl
  rw [hurl] at h
  obtain rfl := Except.ok.inj h
  exact location_ne_of_owns hd ho rfl

/-- A link that can be tracked is tracked. -/
lemma exists_track {s : Text} {url : Url} (h : Url.split s.toList = .ok url)
    (hbytes : partner.wants url = true → partner.HasBytes codes url) :
    ∃ s', partner.track codes s = .ok s' := by
  cases hw : partner.wants url with
  | false => exact ⟨s, track_of_not_wants h hw⟩
  | true =>
    obtain ⟨url', hurl'⟩ := exists_trackedUrl_iff.mpr (hbytes hw)
    exact ⟨_, by rw [track_of_wants h hw, hurl']; rfl⟩

/-- What can be tracked is tracked. -/
lemma exists_trackValue (h : partner.Trackable codes v) :
    ∃ w, partner.trackValue codes v = .ok w := by
  cases hc : codes.partnerId.isFilled with
  | false => exact ⟨v, trackValue_of_no_code hc⟩
  | true =>
    cases v with
    | text s =>
      by_cases hs : s = ""
      · rw [hs]
        exact ⟨_, trackValue_empty⟩
      · obtain ⟨url, hurl, hbytes⟩ := h.resolve_left hs
        obtain ⟨s', hs'⟩ := exists_track hurl hbytes
        exact ⟨.text s', by rw [trackValue_text hc hs, hs']; rfl⟩
    | _ => exact ⟨_, by unfold trackValue; rw [hc]⟩

/-- A link that leads elsewhere stays, whoever is credited. -/
lemma trackValue_of_not_owns {s : Text} {url : Url} (h : Url.split s.toList = .ok url)
    (ho : partner.owns url = false) : partner.trackValue codes (.text s) = .ok (.text s) := by
  cases hc : codes.partnerId.isFilled with
  | false => exact trackValue_of_no_code hc
  | true =>
    by_cases hs : s = ""
    · rw [hs, trackValue_empty]
    · rw [trackValue_text hc hs, track_of_not_owns h ho]
      rfl

lemma trackValue_of_not_text (h : ∀ s, v ≠ .text s) : partner.trackValue codes v = .ok v := by
  cases hc : codes.partnerId.isFilled with
  | false => exact trackValue_of_no_code hc
  | true =>
    cases v with
    | text s => exact absurd rfl (h s)
    | _ => unfold trackValue; rw [hc]

/-- Only values that lead to the partner change. -/
lemma trackValue_of_not_isOwned (h : partner.Trackable codes v) (ho : ¬ partner.IsOwned v) :
    partner.trackValue codes v = .ok v := by
  cases v with
  | text s =>
    rcases h with rfl | ⟨url, hurl, -⟩
    · exact trackValue_empty
    · refine trackValue_of_not_owns hurl ?_
      rw [← Bool.not_eq_true]
      exact fun howns => ho ⟨s, url, rfl, hurl, owns_iff.mp howns⟩
  | _ => exact trackValue_of_not_text nofun

/-- A link to the partner has the partner id afterwards. -/
lemma trackValue_of_isOwned (hd : partner.domain ≠ "") (hc : codes.partnerId.isFilled = true)
    (h : partner.Trackable codes v) (ho : partner.IsOwned v) :
    ∃ s url, partner.trackValue codes v = .ok (.text s) ∧ Url.split s.toList = .ok url ∧
      partner.isTracked (Query.parse url.query) = true ∧
        partner.trackValue codes (.text s) = .ok (.text s) := by
  obtain ⟨s, url, rfl, hurl, hhost⟩ := ho
  have howns := owns_iff.mpr hhost
  have hs := ne_empty_of_owns hd hurl howns
  obtain ⟨_, ⟨rfl⟩, hbytes⟩ : ∃ url', Except.ok url = .ok url' ∧ _ := hurl ▸ h.resolve_left hs
  obtain ⟨s', url', htrack, hurl', htracked, hagain⟩ := track_of_owns hd hurl howns hbytes
  refine ⟨s', url', ?_, hurl', htracked, ?_⟩
  · rw [trackValue_text hc hs, htrack]
    rfl
  · by_cases hs' : s' = ""
    · rw [hs', trackValue_empty]
    · rw [trackValue_text hc hs', hagain]
      rfl

lemma tracked_of_trackValue (h : partner.trackValue codes v = .ok w) :
    partner.tracked codes v = w := by
  rw [tracked, h]

/-- Tracking makes a text of a text. -/
lemma exists_tracked_text (partner : Partner) (codes : AffiliateCodes) (s : Text) :
    ∃ s', partner.tracked codes (.text s) = .text s' := by
  unfold tracked
  cases hc : codes.partnerId.isFilled with
  | false => exact ⟨s, by rw [trackValue_of_no_code hc]⟩
  | true =>
    by_cases hs : s = ""
    · exact ⟨"", by rw [hs, trackValue_empty]⟩
    · rw [trackValue_text hc hs]
      cases partner.track codes s with
      | error fault => exact ⟨s, rfl⟩
      | ok s' => exact ⟨s', rfl⟩

/-- Exactly the values that can be tracked are tracked. -/
lemma trackValue_eq_ok_iff (hc : codes.partnerId.isFilled = true) :
    partner.trackValue codes v = .ok w ↔
      partner.Trackable codes v ∧ w = partner.tracked codes v := by
  constructor
  · exact fun h => ⟨trackable_of_trackValue hc h, (tracked_of_trackValue h).symm⟩
  · rintro ⟨h, rfl⟩
    obtain ⟨w, hw⟩ := exists_trackValue h
    rw [tracked_of_trackValue hw, hw]

lemma tracked_of_not_isOwned (h : partner.Trackable codes v) (ho : ¬ partner.IsOwned v) :
    partner.tracked codes v = v :=
  tracked_of_trackValue (trackValue_of_not_isOwned h ho)

/-- Tracking a tracked value changes nothing. -/
lemma tracked_tracked (hd : partner.domain ≠ "") (hc : codes.partnerId.isFilled = true)
    (h : partner.Trackable codes v) : partner.Trackable codes (partner.tracked codes v) ∧
      partner.tracked codes (partner.tracked codes v) = partner.tracked codes v := by
  by_cases ho : partner.IsOwned v
  · obtain ⟨s, url, hs, hurl, htracked, hagain⟩ := trackValue_of_isOwned hd hc h ho
    rw [tracked_of_trackValue hs, tracked_of_trackValue hagain]
    have hstays : partner.wants url = false := by simp [wants, htracked]
    exact ⟨.inr ⟨url, hurl, fun hw => absurd hw (by simp [hstays])⟩, rfl⟩
  · rw [tracked_of_not_isOwned h ho]
    exact ⟨h, tracked_of_not_isOwned h ho⟩

lemma isPartnerLink_text {s : Text} (hs : s ≠ "") : partner.isPartnerLink (.text s) =
    ((Url.split s.toList).map partner.owns).mapError .url :=
  if_neg hs

/-- What was looked at can be tracked unless it leads to the partner. -/
lemma trackable_of_isPartnerLink (h : partner.isPartnerLink v = .ok false) :
    partner.Trackable codes v := by
  cases v with
  | text s =>
    by_cases hs : s = ""
    · exact .inl hs
    · rw [isPartnerLink_text hs] at h
      obtain ⟨url, hsplit, ho⟩ := map_eq_ok_iff.mp (mapError_eq_ok.mp h)
      exact .inr ⟨url, hsplit, fun hw => by simp [wants, ho] at hw⟩
  | _ => trivial

/-- A value that can be tracked is a link to the partner or stays. -/
lemma isPartnerLink_of_trackable (partner : Partner) (codes : AffiliateCodes)
    (h : partner.Trackable codes v) :
    ∃ b, partner.isPartnerLink v = .ok b ∧ (b = false → partner.tracked codes v = v) := by
  cases v with
  | text s =>
    by_cases hs : s = ""
    · rw [hs]
      exact ⟨false, rfl, fun _ => tracked_of_trackValue trackValue_empty⟩
    · obtain ⟨url, hurl, -⟩ := h.resolve_left hs
      refine ⟨partner.owns url, by rw [isPartnerLink_text hs, hurl]; rfl, fun ho => ?_⟩
      exact tracked_of_trackValue (trackValue_of_not_owns hurl ho)
  | _ => exact ⟨false, rfl, fun _ => tracked_of_trackValue (trackValue_of_not_text nofun)⟩

/-! ### What tracking appends -/

/-- A URL is another one with parameters behind its own. -/
structure Appends (url : Url) (parameters : Query) (url' : Url) : Prop where
  scheme : url'.scheme = url.scheme
  location : url'.location = url.location
  path : url'.path = url.path
  fragment : url'.fragment = url.fragment
  query : Query.parse url'.query = Query.parse url.query ++ parameters

lemma appends_of_trackedUrl {url url' : Url} (h : partner.trackedUrl codes url = .ok url') :
    Appends url (partner.trackingPairs codes) url' := by
  obtain ⟨written, hprint, rfl⟩ := trackedUrl_eq_ok_iff.mp h
  exact ⟨rfl, rfl, rfl, rfl, Query.parse_of_print hprint⟩

/-- The partner id at least is appended. -/
lemma Appends.ne {url url' : Url} (h : Appends url (partner.trackingPairs codes) url') :
    url' ≠ url := by
  rintro rfl
  have hlength := congrArg List.length h.query
  simp [trackingPairs] at hlength

/-- Only links of the partner without the partner id change, and only for an advisor with a
code. -/
lemma exists_of_trackValue_ne {link : Text} (h : partner.trackValue codes (.text link) = .ok v)
    (hne : v ≠ .text link) :
    ∃ url url', Url.split link.toList = .ok url ∧ partner.wants url = true ∧
      partner.trackedUrl codes url = .ok url' ∧ v = .text (Text.ofList url'.join) := by
  have hc : codes.partnerId.isFilled = true := by
    by_contra hc
    rw [trackValue_of_no_code (eq_false_of_ne_true hc)] at h
    exact hne (Except.ok.inj h).symm
  have hs : link ≠ "" := by
    rintro rfl
    rw [trackValue_empty] at h
    exact hne (Except.ok.inj h).symm
  obtain ⟨url, hurl, hbytes⟩ := (trackable_of_trackValue hc h).resolve_left hs
  rw [trackValue_text hc hs] at h
  cases hw : partner.wants url with
  | false =>
    rw [track_of_not_wants hurl hw] at h
    exact absurd (Except.ok.inj h).symm hne
  | true =>
    obtain ⟨url', hurl'⟩ := exists_trackedUrl_iff.mpr (hbytes hw)
    rw [track_of_wants hurl hw, hurl'] at h
    exact ⟨url, url', hurl, hw, hurl', (Except.ok.inj h).symm⟩

/-- Tracking only appends: a link that changes keeps its parts and its parameters and gets those
that attribute it behind them. Links that lead elsewhere and links that have the partner id stay;
all other links of the partner change for an advisor with a code, if their parameters have
bytes. -/
theorem trackValue_appends (hd : partner.domain ≠ "") (codes : AffiliateCodes) (link : Text) :
    (∀ v, partner.trackValue codes (.text link) = .ok v → v ≠ .text link →
      ∃ url link' url', Url.split link.toList = .ok url ∧ v = .text link' ∧
        Url.split link'.toList = .ok url' ∧
          Appends url ((partner.idParam.toList, codes.partnerId.inText.toList) ::
            (if codes.campaignId.isFilled then
              [(partner.campaignParam.toList, codes.campaignId.inText.toList)]
            else []) ++ [(partner.mediumParam.toList, partner.mediumValue.toList)]) url') ∧
    (∀ url, Url.split link.toList = .ok url →
      (¬ partner.IsOwned (.text link) ∨
        ∃ value, (partner.idParam.toList, value) ∈ Query.parse url.query) →
      partner.trackValue codes (.text link) = .ok (.text link)) ∧
    (∀ url, Url.split link.toList = .ok url → codes.partnerId.isFilled = true →
      partner.IsOwned (.text link) →
      (∀ value, (partner.idParam.toList, value) ∉ Query.parse url.query) →
      partner.HasBytes codes url →
      ∃ v, partner.trackValue codes (.text link) = .ok v ∧ v ≠ .text link) := by
  refine ⟨?_, ?_, ?_⟩
  · intro v hv hne
    obtain ⟨url, url', hurl, hw, hurl', rfl⟩ := exists_of_trackValue_ne hv hne
    exact ⟨url, _, url', hurl, rfl, split_of_trackedUrl hd hurl (wants_iff.mp hw).1 hurl',
      appends_of_trackedUrl hurl'⟩
  · intro url hurl hstays
    have hw : partner.wants url = false := by
      rw [← Bool.not_eq_true, wants_iff]
      rintro ⟨ho, ht⟩
      rcases hstays with hstays | hstays
      · exact hstays ⟨link, url, rfl, hurl, owns_iff.mp ho⟩
      · rw [isTracked_iff.mpr hstays] at ht
        cases ht
    by_contra hne
    -- A link that changes is owned and untracked, which is what is excluded here.
    have htrackable : partner.Trackable codes (.text link) :=
      .inr ⟨url, hurl, fun h => absurd h (by simp [hw])⟩
    obtain ⟨v, hv⟩ := exists_trackValue htrackable
    obtain ⟨url', -, hurl', hw', -⟩ := exists_of_trackValue_ne hv (fun h => hne (h ▸ hv))
    obtain rfl := Except.ok.inj (hurl.symm.trans hurl')
    rw [hw] at hw'
    cases hw'
  · rintro url hurl hc ⟨s, url', heq, hurl', hhost⟩ hno hbytes
    obtain rfl := Value.text.inj heq
    obtain rfl := Except.ok.inj (hurl.symm.trans hurl')
    have ho : partner.owns url = true := owns_iff.mpr hhost
    have ht : partner.isTracked (Query.parse url.query) = false := by
      rw [← Bool.not_eq_true, isTracked_iff]
      rintro ⟨value, hvalue⟩
      exact hno value hvalue
    obtain ⟨url', htracked⟩ := exists_trackedUrl_iff.mpr hbytes
    refine ⟨.text (Text.ofList url'.join), ?_, fun heq => ?_⟩
    · rw [trackValue_text hc (ne_empty_of_owns hd hurl ho),
        track_of_wants hurl (wants_iff.mpr ⟨ho, ht⟩), htracked]
      rfl
    -- A tracked link splits into other parts, so it is another link.
    · have hsplit := split_of_trackedUrl hd hurl ho htracked
      rw [Value.text.inj heq, hurl] at hsplit
      exact (appends_of_trackedUrl htracked).ne (Except.ok.inj hsplit).symm

/-- A link with an empty parameter, escapes and a fragment. -/
def tourLink : Text := "HTTPS://www.Viator.com/d1?day=&tour=%41+1#top"

/-- A link with a parameter and a fragment, for an advisor with a campaign. -/
theorem trackValue_appends_tourLink :
    let codes : AffiliateCodes := ⟨.text "P 1", .int 9⟩
    ({} : Partner).domain ≠ "" ∧ ∃ v link' url url', trackValue {} codes (.text tourLink) = .ok v ∧
      v ≠ .text tourLink ∧ v = .text link' ∧ Url.split link'.toList = .ok url' ∧
        Query.parse url.query = [("day".codePoints, []), ("tour".codePoints, "A 1".codePoints)] ∧
          Appends url [("pid".codePoints, "P 1".codePoints), ("mcid".codePoints, "9".codePoints),
            ("medium".codePoints, "link".codePoints)] url' := by
  intro codes
  have hd : ({} : Partner).domain ≠ "" := by decide
  have hurl : Url.split tourLink.toList = .ok ⟨"https".codePoints, "www.Viator.com".codePoints,
      "/d1".codePoints, "day=&tour=%41+1".codePoints, "top".codePoints⟩ := rfl
  have hquery : Query.parse "day=&tour=%41+1".codePoints =
      [("day".codePoints, []), ("tour".codePoints, "A 1".codePoints)] := by decide +kernel
  have howned : ({} : Partner).IsOwned (.text tourLink) :=
    ⟨tourLink, _, rfl, hurl, .inr ⟨"www".codePoints, rfl⟩⟩
  obtain ⟨happends, -, hchanges⟩ := trackValue_appends hd codes tourLink
  have hno : ∀ value, ("pid".codePoints, value) ∉ Query.parse "day=&tour=%41+1".codePoints := by
    rw [hquery]
    simp
  have hbytes : ({} : Partner).HasBytes codes ⟨"https".codePoints, "www.Viator.com".codePoints,
      "/d1".codePoints, "day=&tour=%41+1".codePoints, "top".codePoints⟩ := by
    rw [HasBytes, hquery]
    unfold IsEncodable
    decide
  obtain ⟨v, hv, hne⟩ := hchanges _ hurl rfl howned hno hbytes
  obtain ⟨url, link', url', hurl', rfl, hurl'', h⟩ := happends v hv hne
  obtain rfl := Except.ok.inj (hurl.symm.trans hurl')
  exact ⟨hd, _, link', _, url', hv, hne, rfl, hurl'', hquery, h⟩

end Partner

end TripProposal
