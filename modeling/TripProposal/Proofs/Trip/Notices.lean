import TripProposal.Proofs.Trip.Views

/-!
# The packaged notices

The packaged settings compare one pair of notices: the description of the tours and the note of
the trip itself. Neither stands inside of what a live view shows, so blanking one of them changes
this place and no other, and a notice that was blanked is not blanked again.
-/

namespace TripProposal.Trip

open Fields Value

variable {trip : Fields} {key : Text} {matcher : NoticeMatcher}

/-- The fields that the packaged settings compare. -/
def packagedPair : NoticePair :=
  ⟨"viatorToursDescription", "meta.selfBookingNote"⟩

lemma pathKeys_description : pathKeys "viatorToursDescription" =
    (["viatorToursDescription"] : List Text) := by
  decide

lemma pathKeys_note : pathKeys "meta.selfBookingNote" =
    (["meta", "selfBookingNote"] : List Text) := by
  decide

/-- The trip with one of the packaged notices blanked if they repeat each other. -/
def noticesBlanked (matcher : NoticeMatcher) (trip : Fields) : Fields :=
  match choice? matcher (.object trip) packagedPair with
  | none => trip
  | some choice =>
    ((putAtPath (.text "") (pathKeys choice.blanked) (.object trip)).fields?).getD trip

/-- The packaged pair has two fields. -/
lemma blanked_of_choice? {choice : Choice}
    (h : choice? matcher (.object trip) packagedPair = some choice) :
    choice.blanked = "viatorToursDescription" ∨ choice.blanked = "meta.selfBookingNote" := by
  unfold choice? at h
  split at h
  · split at h
    · cases h
    · split at h
      · obtain rfl := Option.some.inj h
        exact .inl rfl
      · obtain rfl := Option.some.inj h
        exact .inr rfl
  · cases h

/-- The packaged notices do not stand inside of what live views show. -/
lemma trip_blankNotices (w : Workspace) :
    (blankNotices matcher w [packagedPair]).1.trip = noticesBlanked matcher w.trip := by
  rw [blankNotices, noticesBlanked]
  cases hc : choice? matcher (.object w.trip) packagedPair with
  | none => rfl
  | some choice =>
    have hpath : pathKeys choice.blanked = (["viatorToursDescription"] : List Text) ∨
        pathKeys choice.blanked = (["meta", "selfBookingNote"] : List Text) := by
      rcases blanked_of_choice? hc with h | h
      · exact .inl (h ▸ pathKeys_description)
      · exact .inr (h ▸ pathKeys_note)
    have hstored :
        Workspace.isBelow (pathKeys choice.blanked) Workspace.storedDescription = false := by
      rcases hpath with h | h <;> rw [h] <;> decide
    have hshown :
        Workspace.isBelow (pathKeys choice.blanked) Workspace.shownDescription = false := by
      rcases hpath with h | h <;> rw [h] <;> decide
    simp only [blankNotices, Workspace.putAtPath, Workspace.afterReplacing, hstored, hshown,
      Bool.and_false, Bool.false_eq_true, if_false]

/-- A choice depends on the two fields of the pair only. -/
lemma choice?_congr {trip' : Fields}
    (hdescription : get? "viatorToursDescription" trip' = get? "viatorToursDescription" trip)
    (hmeta : get? "meta" trip' = get? "meta" trip) :
    choice? matcher (.object trip') packagedPair = choice? matcher (.object trip) packagedPair := by
  have hfirst : (Value.object trip').atPath (["viatorToursDescription"] : List Text) =
      (Value.object trip).atPath ["viatorToursDescription"] := by
    simp only [atPath, fieldOrNull, field?, hdescription]
  have hsecond : (Value.object trip').atPath (["meta", "selfBookingNote"] : List Text) =
      (Value.object trip).atPath ["meta", "selfBookingNote"] := by
    simp only [atPath, fieldOrNull, field?, hmeta]
  simp only [choice?, packagedPair, pathKeys_description, pathKeys_note, hfirst, hsecond]

/-- An empty text is no notice. -/
lemma choice?_of_empty (hm : matcher "" = [])
    (h : (Value.object trip).atPath (["viatorToursDescription"] : List Text) = .text "" ∨
      (Value.object trip).atPath (["meta", "selfBookingNote"] : List Text) = .text "") :
    choice? matcher (.object trip) packagedPair = none := by
  simp only [choice?, packagedPair, pathKeys_description, pathKeys_note]
  split
  · next first second hfirst hsecond =>
    refine if_pos ?_
    rcases h with h | h
    · rw [h] at hfirst
      obtain rfl := Value.text.inj hfirst
      simp [hm]
    · rw [h] at hsecond
      obtain rfl := Value.text.inj hsecond
      simp [hm]
  · rfl

lemma noticesBlanked_of_none (h : choice? matcher (.object trip) packagedPair = none) :
    noticesBlanked matcher trip = trip := by
  rw [noticesBlanked, h]

lemma noticesBlanked_of_description {choice : Choice}
    (h : choice? matcher (.object trip) packagedPair = some choice)
    (hb : choice.blanked = "viatorToursDescription") :
    noticesBlanked matcher trip = put "viatorToursDescription" (.text "") trip := by
  simp only [noticesBlanked, h, hb, pathKeys_description]
  rfl

/-- The note is blanked where it is a text. -/
lemma noticesBlanked_of_note {choice : Choice}
    (h : choice? matcher (.object trip) packagedPair = some choice)
    (hb : choice.blanked = "meta.selfBookingNote") :
    ∃ details s, get? "meta" trip = some (.object details) ∧
      get? "selfBookingNote" details = some (.text s) ∧ noticesBlanked matcher trip =
        put "meta" (.object (put "selfBookingNote" (.text "") details)) trip := by
  obtain ⟨s, hs⟩ := Workspace.text_of_choice? h
  rw [hb, pathKeys_note] at hs
  obtain ⟨_, inner, hobject, hmeta, hnote⟩ := exists_field_of_atPath hs
  obtain rfl := Value.object.inj hobject
  obtain ⟨details, note, rfl, hfield, rfl⟩ := exists_field_of_atPath hnote
  refine ⟨details, s, hmeta, hfield, ?_⟩
  simp only [noticesBlanked, h, hb, pathKeys_note, putAtPath_cons_cons hmeta]
  rfl

/-- Blanking a notice changes two places only. -/
lemma get?_noticesBlanked (h : key ∉ (["viatorToursDescription", "meta"] : List Text)) :
    get? key (noticesBlanked matcher trip) = get? key trip := by
  simp only [List.mem_cons, List.not_mem_nil, or_false, not_or] at h
  cases hc : choice? matcher (.object trip) packagedPair with
  | none => rw [noticesBlanked_of_none hc]
  | some choice =>
    rcases blanked_of_choice? hc with hb | hb
    · rw [noticesBlanked_of_description hc hb, get?_put_of_ne (Ne.symm h.1)]
    · obtain ⟨details, -, -, -, heq⟩ := noticesBlanked_of_note hc hb
      rw [heq, get?_put_of_ne (Ne.symm h.2)]

section

variable {trip' : Fields}
  (hdescription : get? "viatorToursDescription" trip' =
    get? "viatorToursDescription" (noticesBlanked matcher trip))
  (hmeta : get? "meta" trip' = get? "meta" (noticesBlanked matcher trip))

include hdescription hmeta

/-- Once one of two notices is blanked, they do not repeat each other. -/
lemma noticesBlanked_again (hm : matcher "" = []) : noticesBlanked matcher trip' = trip' := by
  refine noticesBlanked_of_none ?_
  cases hc : choice? matcher (.object trip) packagedPair with
  | none =>
    rw [noticesBlanked_of_none hc] at hdescription hmeta
    rw [choice?_congr hdescription hmeta, hc]
  | some choice =>
    refine choice?_of_empty hm ?_
    rcases blanked_of_choice? hc with hb | hb
    · rw [noticesBlanked_of_description hc hb, get?_put_self] at hdescription
      exact .inl (by simp [atPath, fieldOrNull, field?, hdescription])
    · obtain ⟨details, -, -, -, heq⟩ := noticesBlanked_of_note hc hb
      rw [heq, get?_put_self] at hmeta
      exact .inr (by simp [atPath, fieldOrNull, field?, hmeta])

/-- A description that is shown again is blanked again if it was blanked before. -/
lemma noticesBlanked_put_description (hm : matcher "" = []) {v : Value}
    (hv : get? "viatorToursDescription" trip = some v) :
    noticesBlanked matcher (put "viatorToursDescription" v trip') = trip' := by
  have hagain := noticesBlanked_again hdescription hmeta hm
  cases hc : choice? matcher (.object trip) packagedPair with
  | none =>
    rw [noticesBlanked_of_none hc, hv] at hdescription
    rw [put_of_get? hdescription, hagain]
  | some choice =>
    rcases blanked_of_choice? hc with hb | hb
    · rw [noticesBlanked_of_description hc hb] at hdescription hmeta
      rw [get?_put_self] at hdescription
      rw [get?_put_of_ne (by decide)] at hmeta
      have hsame : choice? matcher (.object (put "viatorToursDescription" v trip')) packagedPair =
          choice? matcher (.object trip) packagedPair :=
        choice?_congr (by rw [get?_put_self, hv]) (by rw [get?_put_of_ne (by decide), hmeta])
      rw [noticesBlanked_of_description (hsame.trans hc) hb, put_put, put_of_get? hdescription]
    · obtain ⟨details, -, -, -, heq⟩ := noticesBlanked_of_note hc hb
      rw [heq, get?_put_of_ne (by decide), hv] at hdescription
      rw [put_of_get? hdescription, hagain]

end

end TripProposal.Trip
