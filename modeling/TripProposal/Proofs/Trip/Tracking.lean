import Mathlib.Data.List.Forall2
import TripProposal.Proofs.Url.Tracking
import TripProposal.Proofs.Value.Traversal

/-!
# Tracked trips

Each walk through a trip follows a traversal: it tracks the values that the traversal lists,
where they stand, and counts those that change. The walks in sequence follow the traversals
together, so a trip comes out as its links say and nothing else in it changes. A second run finds
tracked links only.
-/

namespace TripProposal

/-- Whether a value is a number that differs from itself. -/
def Value.IsNaN : Value → Prop
  | .float x => x.isNaN = true
  | _ => False

namespace Trip

open Text Partner Traversal

variable {α β : Type}

/-! ### Walks in sequence -/

namespace Tagging

variable {walk : Tagging α} {next : α → Tagging β} {a : α} {b : β} {m n : Nat}

lemma andThen_error {fault : LinkFault} (h : next a = Except.error fault) :
    andThen (Except.ok (a, m)) next = Except.error fault := by
  simp only [andThen, h]
  rfl

lemma andThen_ok (h : next a = Except.ok (b, n)) :
    andThen (Except.ok (a, m)) next = Except.ok (b, m + n) := by
  simp only [andThen, h]
  rfl

instance : LawfulMonad Tagging :=
  LawfulMonad.mk' Tagging
    (fun walk => by
      change walk.andThen unchanged = walk
      rcases walk with fault | ⟨a, m⟩ <;> rfl)
    (fun a next => by
      change andThen (Except.ok (a, 0)) next = next a
      cases h : next a with
      | error fault => exact andThen_error h
      | ok found => rw [andThen_ok h, Nat.zero_add])
    (fun walk next last => by
      change (walk.andThen next).andThen last = walk.andThen fun a => (next a).andThen last
      rcases walk with fault | ⟨a, m⟩
      · rfl
      · rcases hb : next a with fault | ⟨b, n⟩
        · rw [andThen_error hb, andThen_error (by rw [hb]; rfl)]
          rfl
        · rw [andThen_ok hb]
          rcases hc : last b with fault | ⟨c, k⟩
          · rw [andThen_error hc, andThen_error (by rw [hb, andThen_error hc])]
          · rw [andThen_ok hc, andThen_ok (by rw [hb, andThen_ok hc]), Nat.add_assoc])

lemma unchanged_eq_pure (a : α) : unchanged a = pure a := rfl

/-- The counts of two walks add up. -/
lemma bind_ok (hw : walk = Except.ok (a, m)) (hn : next a = Except.ok (b, n)) :
    walk >>= next = Except.ok (b, m + n) := by
  rw [hw]
  exact andThen_ok hn

lemma map_ok (g : α → β) (hw : walk = Except.ok (a, m)) :
    (do return g (← walk) : Tagging β) = Except.ok (g a, m) :=
  bind_ok (n := 0) hw rfl

/-- A walk that succeeds has parts that do. -/
lemma exists_of_bind {r : β × Nat} (h : walk >>= next = Except.ok r) :
    ∃ p q, walk = Except.ok p ∧ next p.1 = Except.ok q := by
  rcases walk with fault | ⟨a, m⟩
  · cases h
  · rcases hn : next a with fault | q
    · rw [show (bind (Except.ok (a, m)) next : Tagging β) = _ from andThen_error hn] at h
      cases h
    · exact ⟨(a, m), q, rfl, hn⟩

end Tagging
/-! ### Walks along the parts of a document -/

/-- Walk each item of a list. -/
def onEach (f : α → Tagging α) : List α → Tagging (List α)
  | [] => return []
  | a :: rest => do return (← f a) :: (← onEach f rest)

/-- Walk the fields of an object; other values stay. -/
def onObject (f : Fields → Tagging Fields) : Value → Tagging Value
  | .object fields => do return .object (← f fields)
  | v => return v

/-- Walk each item of a list; other values stay. -/
def onList (f : Value → Tagging Value) : Value → Tagging Value
  | .list items => do return .list (← onEach f items)
  | v => return v

/-- Walk the value under a key, if there is one. -/
def onField (key : Text) (f : Value → Tagging Value) (fields : Fields) : Tagging Fields :=
  match Fields.get? key fields with
  | some v => do return Fields.put key (← f v) fields
  | none => return fields

/-- Walk the value of an entry under another key. -/
def onEntryExcept (key : Text) (f : Value → Tagging Value) (entry : Text × Value) :
    Tagging (Text × Value) :=
  if entry.1 = key then return entry else do return (entry.1, ← f entry.2)

lemma onObjects_eq (f : Fields → Tagging Fields) (items : List Value) :
    onObjects f items = onEach (onObject f) items := by
  induction items with
  | nil => rfl
  | cons v items ih =>
    cases v <;> simp [onObjects, onEach, onObject, ih]

lemma onListAt_eq (key : Text) (f : Fields → Tagging Fields) (fields : Fields) :
    onListAt key f fields = onField key (onList (onObject f)) fields := by
  unfold onListAt onField
  cases h : Fields.get? key fields with
  | none => rfl
  | some v =>
    cases v <;> simp [onList, onObjects_eq, Fields.put_of_get? h, Tagging.unchanged_eq_pure]

lemma tagTours_eq (t : Tracker) (trip : Fields) :
    t.tagTours trip = onField "viatorTours" (onObject t.tagPorts) trip := by
  unfold Tracker.tagTours onField
  cases h : Fields.get? "viatorTours" trip with
  | none => rfl
  | some v => cases v <;> simp [onObject, Fields.put_of_get? h, Tagging.unchanged_eq_pure]

lemma tagPorts_eq (t : Tracker) (ports : Fields) :
    t.tagPorts ports =
      onEach (onEntryExcept "description" (onList (onObject t.tagTour))) ports := by
  induction ports with
  | nil => rfl
  | cons entry ports ih =>
    obtain ⟨port, v⟩ := entry
    by_cases hp : port = "description"
    · cases v <;> simp [Tracker.tagPorts, onEach, onEntryExcept, hp, ih, Tagging.unchanged_eq_pure]
    · cases v <;> simp [Tracker.tagPorts, onEach, onEntryExcept, onList, onObjects_eq, hp, ih]

/-! ### What a walk does -/

/-- A link after tracking. -/
def Tracker.tracked (t : Tracker) (v : Value) : Value :=
  t.partner.tracked t.codes v

/-- Whether tracking counts a link as changed. -/
def Tracker.changes (t : Tracker) (v : Value) : Bool :=
  countsAsChanged (t.tracked v) v

/-- A walk follows a traversal when it tracks the values of the traversal and counts those that
change. It fails when one of them cannot be tracked. -/
structure Tracker.Follows (t : Tracker) (links : Traversal α) (walk : α → Tagging α) : Prop where
  /-- Links that can all be tracked are tracked, and counted when none differs from itself. -/
  ok : ∀ a, (∀ v ∈ links.values a, t.partner.Trackable t.codes v) →
    ∃ n, walk a = Except.ok (links.map t.tracked a, n) ∧
      ((∀ v ∈ links.values a, ¬ v.IsNaN) → n = (links.values a).countP t.changes)
  /-- A result shows that all links could be tracked. -/
  trackable : ∀ a r, walk a = Except.ok r →
    ∀ v ∈ links.values a, t.partner.Trackable t.codes v

namespace Tracker.Follows

variable {t : Tracker}

/-- A walk that follows links follows them below a field. -/
lemma onField {links : Traversal Value} {walk : Value → Tagging Value}
    (h : t.Follows links walk) (key : Text) :
    t.Follows (links.field key) (Trip.onField key walk) where
  ok fields ht := by
    unfold Trip.onField
    cases hv : Fields.get? key fields with
    | none =>
      rw [values_field_of_none hv, map_field_of_none _ hv]
      exact ⟨0, rfl, fun _ => rfl⟩
    | some v =>
      rw [values_field_of_some hv] at ht ⊢
      rw [map_field_of_some _ hv]
      obtain ⟨n, hn, hcount⟩ := h.ok v ht
      exact ⟨n, Tagging.map_ok _ hn, hcount⟩
  trackable fields r hr := by
    unfold Trip.onField at hr
    cases hv : Fields.get? key fields with
    | none =>
      rw [values_field_of_none hv]
      intro v hv
      cases hv
    | some v =>
      rw [values_field_of_some hv]
      rw [hv] at hr
      obtain ⟨p, -, hp, -⟩ := Tagging.exists_of_bind hr
      exact h.trackable v p hp

lemma onObject {links : Traversal Fields} {walk : Fields → Tagging Fields}
    (h : t.Follows links walk) : t.Follows links.object (Trip.onObject walk) where
  ok v ht := by
    cases v with
    | object fields =>
      obtain ⟨n, hn, hcount⟩ := h.ok fields ht
      exact ⟨n, Tagging.map_ok _ hn, hcount⟩
    | _ => exact ⟨0, rfl, fun _ => rfl⟩
  trackable v r hr := by
    cases v with
    | object fields =>
      obtain ⟨p, -, hp, -⟩ := Tagging.exists_of_bind hr
      exact h.trackable fields p hp
    | _ =>
      intro v hv
      cases hv

lemma onEntryExcept {links : Traversal Value} {walk : Value → Tagging Value}
    (h : t.Follows links walk) (key : Text) :
    t.Follows (links.entryExcept key) (Trip.onEntryExcept key walk) where
  ok entry ht := by
    unfold Trip.onEntryExcept entryExcept at *
    by_cases hk : entry.1 = key
    · simp only [hk, if_true]
      exact ⟨0, rfl, fun _ => rfl⟩
    · simp only [hk, if_false] at ht ⊢
      obtain ⟨n, hn, hcount⟩ := h.ok entry.2 ht
      exact ⟨n, Tagging.map_ok _ hn, hcount⟩
  trackable entry r hr := by
    unfold Trip.onEntryExcept entryExcept at *
    by_cases hk : entry.1 = key
    · simp [hk]
    · simp only [hk, if_false] at hr ⊢
      obtain ⟨p, -, hp, -⟩ := Tagging.exists_of_bind hr
      exact h.trackable entry.2 p hp

/-- And in the elements of a list. -/
lemma onEach {links : Traversal α} {walk : α → Tagging α} (h : t.Follows links walk) :
    t.Follows links.each (Trip.onEach walk) where
  ok items ht := by
    induction items with
    | nil => exact ⟨0, rfl, fun _ => rfl⟩
    | cons a items ih =>
      simp only [each, List.flatMap_cons, List.mem_append, or_imp, forall_and] at ht ih ⊢
      obtain ⟨m, hm, hfirst⟩ := h.ok a ht.1
      obtain ⟨n, hn, hrest⟩ := ih ht.2
      refine ⟨m + n, Tagging.bind_ok hm (Tagging.map_ok _ hn), fun hnan => ?_⟩
      rw [List.countP_append, hfirst hnan.1, hrest hnan.2]
  trackable items r hr := by
    induction items generalizing r with
    | nil =>
      intro v hv
      cases hv
    | cons a items ih =>
      simp only [each, List.flatMap_cons, List.mem_append, or_imp, forall_and] at ih ⊢
      obtain ⟨p, q, hp, hq⟩ := Tagging.exists_of_bind hr
      obtain ⟨s, -, hs, -⟩ := Tagging.exists_of_bind hq
      exact ⟨h.trackable a p hp, ih s hs⟩

lemma onList {links : Traversal Value} {walk : Value → Tagging Value}
    (h : t.Follows links walk) : t.Follows links.list (Trip.onList walk) where
  ok v ht := by
    cases v with
    | list items =>
      obtain ⟨n, hn, hcount⟩ := h.onEach.ok items ht
      exact ⟨n, Tagging.map_ok _ hn, hcount⟩
    | _ => exact ⟨0, rfl, fun _ => rfl⟩
  trackable v r hr := by
    cases v with
    | list items =>
      obtain ⟨p, -, hp, -⟩ := Tagging.exists_of_bind hr
      exact h.onEach.trackable items p hp
    | _ =>
      intro v hv
      cases hv

/-- A walk leaves the places of another walk as they were, so the two may follow each other. -/
lemma andThen {links links' : Traversal α} {walk walk' : α → Tagging α}
    (h : t.Follows links walk) (h' : t.Follows links' walk') (hi : Independent links links') :
    t.Follows (links.both links' hi) (fun a => walk a >>= walk') where
  ok a ht := by
    simp only [both, List.mem_append, or_imp, forall_and] at ht ⊢
    have hright := hi.right t.tracked a
    rw [← hright] at ht ⊢
    obtain ⟨m, hm, hfirst⟩ := h.ok a ht.1
    obtain ⟨n, hn, hsecond⟩ := h'.ok _ ht.2
    refine ⟨m + n, Tagging.bind_ok hm hn, fun hnan => ?_⟩
    rw [List.countP_append, hfirst hnan.1, hsecond hnan.2]
  trackable a r hr := by
    simp only [both, List.mem_append, or_imp, forall_and]
    obtain ⟨p, q, hp, hq⟩ := Tagging.exists_of_bind hr
    have ht := h.trackable a p hp
    obtain ⟨n, hn, -⟩ := h.ok a ht
    rw [hn] at hp
    obtain rfl := Except.ok.inj hp
    rw [← hi.right t.tracked a]
    exact ⟨ht, h'.trackable _ q hq⟩

end Tracker.Follows

/-! ### The links of a trip -/

/-- The link under a key. -/
def linkAt (key : Text) : Traversal Fields :=
  here.field key

lemma values_linkAt (key : Text) (fields : Fields) :
    (linkAt key).values fields = (Fields.get? key fields).toList := by
  cases hv : Fields.get? key fields with
  | none => exact values_field_of_none hv
  | some v => exact values_field_of_some hv

/-- The links in the objects of the list under a key. -/
def linksAt (key : Text) (links : Traversal Fields) : Traversal Fields :=
  links.object.list.field key

/-- The links of a tour. -/
def tourLinks : Traversal Fields :=
  (linkAt "url").both (linkAt "bookingUrl") (independent_field (by decide) _ _)

/-- The links of the tours of every port; the description is no port. -/
def portLinks : Traversal Fields :=
  (tourLinks.object.list.entryExcept "description").each

/-- The links of an itinerary day. -/
def dayLinks : Traversal Fields :=
  (linksAt "activities" (linkAt "url")).both (linksAt "excursions" (linkAt "url"))
    (independent_field (by decide) _ _)

/-- The links of a trip. -/
def tripLinks : Traversal Fields :=
  (portLinks.object.field "viatorTours").both
    ((linksAt "excursions" (linkAt "url")).both
      ((linksAt "recommendedExtras" (linkAt "url")).both (linksAt "itinerary" dayLinks)
        (independent_field (by decide) _ _))
      (.both (independent_field (by decide) _ _) (independent_field (by decide) _ _)))
    (.both (independent_field (by decide) _ _)
      (.both (independent_field (by decide) _ _) (independent_field (by decide) _ _)))

section

variable {t : Tracker} {v : Value}

/-- A link that tracking leaves does not count as changed, unless it differs from itself. -/
lemma not_changes_of_tracked (hn : ¬ v.IsNaN) (h : t.tracked v = v) : t.changes v = false := by
  rw [Tracker.changes, h]
  cases v with
  | float x => simpa [countsAsChanged, Value.IsNaN] using hn
  | _ => simp [countsAsChanged]

/-- Tracking leaves a link that does not count as changed. -/
lemma tracked_of_not_changes (h : t.changes v = false) : t.tracked v = v := by
  unfold Tracker.changes at h
  unfold Tracker.tracked at h ⊢
  cases v with
  | text s =>
    obtain ⟨s', hs'⟩ := exists_tracked_text t.partner t.codes s
    rw [hs'] at h ⊢
    simp only [countsAsChanged, bne_eq_false_iff_eq] at h
    rw [h]
  | _ => exact tracked_of_trackValue (trackValue_of_not_text nofun)

/-- A link counts as changed when it changed. -/
lemma changes_iff (hn : ¬ v.IsNaN) : t.changes v = true ↔ t.tracked v ≠ v := by
  constructor
  · intro h hsame
    rw [not_changes_of_tracked hn hsame] at h
    cases h
  · intro h
    rw [← Bool.not_eq_false]
    exact fun hno => h (tracked_of_not_changes hno)

/-- Links that stay are not counted, unless one of them is NaN. -/
lemma countP_changes_eq_zero {links : List Value} (hn : ∀ v ∈ links, ¬ v.IsNaN)
    (hsame : ∀ v ∈ links, t.tracked v = v) : links.countP t.changes = 0 := by
  rw [List.countP_eq_zero]
  intro v hv h
  exact (changes_iff (hn v hv)).mp h (hsame v hv)

lemma follows_onListAt {links : Traversal Fields} {walk : Fields → Tagging Fields}
    (h : t.Follows links walk) (key : Text) :
    t.Follows (linksAt key links) (onListAt key walk) := by
  rw [funext (onListAt_eq key walk)]
  exact h.onObject.onList.onField key

/-- Tracking makes no number. -/
lemma not_isNaN_tracked (hn : ¬ v.IsNaN) : ¬ (t.tracked v).IsNaN := by
  by_cases hv : ∃ s, v = .text s
  · obtain ⟨s, rfl⟩ := hv
    obtain ⟨s', hs'⟩ := exists_tracked_text t.partner t.codes s
    rw [Tracker.tracked, hs']
    exact id
  · rwa [Tracker.tracked, tracked_of_trackValue (trackValue_of_not_text fun s hs => hv ⟨s, hs⟩)]

variable (hc : t.codes.partnerId.isFilled = true)

include hc

/-- A link that can be tracked is tracked, and counted when it changes. -/
lemma tagLink_of_get? {key : Text} {fields : Fields} (hv : Fields.get? key fields = some v)
    (ht : t.partner.Trackable t.codes v) :
    t.tagLink key fields =
      Except.ok (Fields.put key (t.tracked v) fields, [v].countP t.changes) := by
  have htrack := (trackValue_eq_ok_iff (w := t.tracked v) hc).mpr ⟨ht, rfl⟩
  rw [← Nat.zero_add (List.countP _ _)]
  unfold Tracker.tagLink
  simp only [hv, htrack]
  refine Tagging.bind_ok (a := t.tracked v) rfl ?_
  change (if t.changes v = true then Tagging.changed _ else Tagging.unchanged fields) = _
  by_cases h : t.changes v = true
  · rw [if_pos h, List.countP_singleton, if_pos h]
    rfl
  · have hsame : t.tracked v = v := tracked_of_not_changes (Bool.not_eq_true _ ▸ h)
    rw [if_neg h, List.countP_singleton, if_neg h, hsame, Fields.put_of_get? hv]
    rfl

lemma follows_tagLink (key : Text) : t.Follows (linkAt key) (t.tagLink key) where
  ok fields ht := by
    cases hv : Fields.get? key fields with
    | none =>
      rw [linkAt, values_field_of_none hv, map_field_of_none _ hv, Tracker.tagLink, hv]
      exact ⟨0, rfl, fun _ => rfl⟩
    | some v =>
      rw [linkAt, values_field_of_some hv] at ht ⊢
      rw [map_field_of_some _ hv]
      simp only [here, List.mem_singleton, forall_eq] at ht ⊢
      exact ⟨_, tagLink_of_get? hc hv ht, fun _ => rfl⟩
  trackable fields r hr := by
    intro v hv
    rw [values_linkAt, Option.mem_toList] at hv
    rw [Tracker.tagLink, hv] at hr
    obtain ⟨p, -, hp, -⟩ := Tagging.exists_of_bind hr
    cases htrack : t.partner.trackValue t.codes v with
    | error fault =>
      rw [htrack] at hp
      cases hp
    | ok w => exact trackable_of_trackValue hc htrack

/-- Passing by a link that leads elsewhere is tracking it. -/
lemma tagExcursion_of_get? {excursion : Fields} (hv : Fields.get? "url" excursion = some v)
    (ht : t.partner.Trackable t.codes v) :
    ∃ n, t.tagExcursion excursion = Except.ok (Fields.put "url" (t.tracked v) excursion, n) ∧
      (¬ v.IsNaN → n = [v].countP t.changes) := by
  have hlink := tagLink_of_get? hc hv ht
  unfold Tracker.tagExcursion
  split
  · exact ⟨_, hlink, fun _ => rfl⟩
  · obtain ⟨b, hb, hsame⟩ := isPartnerLink_of_trackable t.partner t.codes ht
    simp only [hv, Option.getD_some, hb]
    cases b with
    | true =>
      change ∃ n, (pure true >>= fun _ => t.tagLink "url" excursion) = _ ∧ _
      rw [pure_bind]
      exact ⟨_, hlink, fun _ => rfl⟩
    | false =>
      have hsame : t.tracked v = v := hsame rfl
      rw [hsame, Fields.put_of_get? hv]
      refine ⟨0, rfl, fun hn => ?_⟩
      rw [countP_changes_eq_zero (by simpa using hn) (by simpa using hsame)]

lemma follows_tagExcursion : t.Follows (linkAt "url") t.tagExcursion where
  ok excursion ht := by
    cases hv : Fields.get? "url" excursion with
    | none =>
      rw [linkAt, values_field_of_none hv, map_field_of_none _ hv]
      refine ⟨0, ?_, fun _ => rfl⟩
      rw [Tracker.tagExcursion, hv]
      split
      · rw [Tracker.tagLink, hv]
        rfl
      · rfl
    | some v =>
      rw [linkAt, values_field_of_some hv] at ht ⊢
      rw [map_field_of_some _ hv]
      simp only [here, List.mem_singleton, forall_eq] at ht ⊢
      exact tagExcursion_of_get? hc hv ht
  trackable excursion r hr := by
    unfold Tracker.tagExcursion at hr
    split at hr
    · exact (follows_tagLink hc "url").trackable excursion r hr
    · obtain ⟨p, q, hp, hq⟩ := Tagging.exists_of_bind hr
      intro v hv
      rw [values_linkAt, Option.mem_toList] at hv
      rw [hv, Option.getD_some] at hp
      cases hb : t.partner.isPartnerLink v with
      | error fault =>
        rw [hb] at hp
        cases hp
      | ok b =>
        rw [hb] at hp
        cases b with
        | false => exact trackable_of_isPartnerLink hb
        | true =>
          obtain rfl : p = (true, 0) := (Except.ok.inj hp).symm
          exact (follows_tagLink hc "url").trackable excursion _ hq v (by rw [values_linkAt, hv]; simp)

/-- The walk over a tour follows both of its links. -/
lemma follows_tagTour : t.Follows tourLinks t.tagTour :=
  (follows_tagLink hc "url").andThen (follows_tagLink hc "bookingUrl") _

lemma follows_tagPorts : t.Follows portLinks t.tagPorts := by
  rw [funext (tagPorts_eq t)]
  exact ((follows_tagTour hc).onObject.onList.onEntryExcept _).onEach

lemma follows_tagTours : t.Follows (portLinks.object.field "viatorTours") t.tagTours := by
  rw [funext (tagTours_eq t)]
  exact (follows_tagPorts hc).onObject.onField _

lemma follows_tagDay : t.Follows dayLinks t.tagDay :=
  (follows_onListAt (follows_tagLink hc "url") _).andThen
    (follows_onListAt (follows_tagExcursion hc) _) _

/-- The walk over a trip follows all of its links. -/
lemma follows_tagTrip : t.Follows tripLinks t.tagTrip :=
  (follows_tagTours hc).andThen
    ((follows_onListAt (follows_tagExcursion hc) _).andThen
      ((follows_onListAt (follows_tagLink hc "url") _).andThen
        (follows_onListAt (follows_tagDay hc) _) _) _) _

/-- A walk finds nothing to do where it went before. -/
lemma follows_again (hd : t.partner.domain ≠ "") {links : Traversal α} {walk : α → Tagging α}
    (h : t.Follows links walk) {a : α}
    (ht : ∀ v ∈ links.values a, t.partner.Trackable t.codes v) :
    ∃ n, walk (links.map t.tracked a) = Except.ok (links.map t.tracked a, n) ∧
      ((∀ v ∈ links.values a, ¬ v.IsNaN) → n = 0) := by
  have hvalues := links.values_map t.tracked a
  have htrack : ∀ w ∈ links.values (links.map t.tracked a), t.partner.Trackable t.codes w := by
    rw [hvalues]
    exact List.forall_mem_map.mpr fun v hv => (tracked_tracked hd hc (ht v hv)).1
  have hsame : ∀ w ∈ links.values (links.map t.tracked a), t.tracked w = w := by
    rw [hvalues]
    exact List.forall_mem_map.mpr fun v hv => (tracked_tracked hd hc (ht v hv)).2
  obtain ⟨n, hn, hcount⟩ := h.ok _ htrack
  rw [links.map_eq_self _ _ hsame] at hn
  refine ⟨n, hn, fun hnan => ?_⟩
  have hnan : ∀ w ∈ links.values (links.map t.tracked a), ¬ w.IsNaN := by
    rw [hvalues]
    exact List.forall_mem_map.mpr fun v hv => not_isNaN_tracked (hnan v hv)
  rw [hcount hnan, countP_changes_eq_zero hnan hsame]

end

/-! ### Tracking all links -/

/-- How one link of a trip is tracked. -/
structure LinkTracked (partner : Partner) (codes : AffiliateCodes) (v w : Value) : Prop where
  tracked : partner.trackValue codes v = .ok w
  complete : partner.IsOwned v → ∃ s url, w = .text s ∧ Url.split s.toList = .ok url ∧
    ∃ value, (partner.idParam.toList, value) ∈ Url.Query.parse url.query
  confined : ¬ partner.IsOwned v → w = v

variable {partner : Partner} {codes : AffiliateCodes} {trip trip' : Fields} {n : Nat} {v : Value}

/-- Tracking a link does what it should. -/
lemma linkTracked_tracked (hd : partner.domain ≠ "") (hc : codes.partnerId.isFilled = true)
    (ht : partner.Trackable codes v) : LinkTracked partner codes v (partner.tracked codes v) where
  tracked := (trackValue_eq_ok_iff hc).mpr ⟨ht, rfl⟩
  complete ho := by
    obtain ⟨s, url, hs, hurl, htracked, -⟩ := trackValue_of_isOwned hd hc ht ho
    exact ⟨s, url, tracked_of_trackValue hs, hurl, isTracked_iff.mp htracked⟩
  confined ho := tracked_of_not_isOwned ht ho

open Classical in
/-- Tracking the links of a trip tracks each of them, leaves all else, counts the links that
changed, and leaves nothing to do for a second run. -/
theorem tracked_of_trackLinks (hd : partner.domain ≠ "") (hc : codes.partnerId.isFilled = true)
    (hn : ∀ v ∈ tripLinks.values trip, ¬ v.IsNaN)
    (h : trackLinks partner (some codes) trip = Except.ok (trip', n)) :
    List.Forall₂ (LinkTracked partner codes) (tripLinks.values trip) (tripLinks.values trip') ∧
      trip' = tripLinks.map (partner.tracked codes) trip ∧
      n = ((tripLinks.values trip).zip (tripLinks.values trip')).countP
        (fun p => decide (p.2 ≠ p.1)) ∧
      trackLinks partner (some codes) trip' = Except.ok (trip', 0) := by
  -- The walk is known from its parts: it follows all links, whatever it finds.
  have hwalk := follows_tagTrip (t := ⟨partner, codes⟩) hc
  have hrun (trip : Fields) :
      trackLinks partner (some codes) trip = Tracker.tagTrip ⟨partner, codes⟩ trip := by
    rw [trackLinks, if_pos hc]
  rw [hrun] at h ⊢
  have ht := hwalk.trackable trip _ h
  obtain ⟨m, hm, hcount⟩ := hwalk.ok trip ht
  rw [hm, hcount hn] at h
  obtain ⟨rfl, rfl⟩ := Prod.mk.inj (Except.ok.inj h)
  have hvalues := tripLinks.values_map (partner.tracked codes) trip
  refine ⟨?_, rfl, ?_, ?_⟩
  · change List.Forall₂ _ _ (tripLinks.values (tripLinks.map (partner.tracked codes) trip))
    rw [hvalues, List.forall₂_map_right_iff, List.forall₂_same]
    exact fun v hv => linkTracked_tracked hd hc (ht v hv)
  · change _ = ((tripLinks.values trip).zip
      (tripLinks.values (tripLinks.map (partner.tracked codes) trip))).countP _
    rw [hvalues, ← List.map_prod_left_eq_zip, List.countP_map]
    refine List.countP_congr fun v hv => ?_
    rw [changes_iff (hn v hv)]
    simp [Tracker.tracked]
  · obtain ⟨k, hk, hzero⟩ := follows_again (t := ⟨partner, codes⟩) hc hd hwalk ht
    rw [hzero hn] at hk
    exact hk

/-- A trip with an excursion and with a tour at a given address. -/
def portTrip (tour : Text) : Fields :=
  [("viatorTours", .object
    [("description", .text "Pick a tour."),
      ("Nassau", .list [.object [("url", .text tour), ("price", .int 80)]])]),
    ("excursions", .list [.object [("url", .text "//example.com/reef")]])]

theorem trackLinks_portTrip :
    LinkTracked {} ⟨.text "P1", .null⟩ (.text "//viator.com/d1")
        (.text "//viator.com/d1?pid=P1&medium=link") ∧
      trackLinks {} (some ⟨.text "P1", .null⟩) (portTrip "//viator.com/d1?pid=P1&medium=link") =
        Except.ok (portTrip "//viator.com/d1?pid=P1&medium=link", 0) := by
  have hn : ∀ v ∈ tripLinks.values (portTrip "//viator.com/d1"), ¬ v.IsNaN := by
    change ∀ v ∈ [Value.text _, Value.text _], _
    simp [Value.IsNaN]
  have hrun : trackLinks {} (some ⟨.text "P1", .null⟩) (portTrip "//viator.com/d1") =
      Except.ok (portTrip "//viator.com/d1?pid=P1&medium=link", 1) := rfl
  obtain ⟨hlinks, -, -, hagain⟩ := tracked_of_trackLinks (by decide) rfl hn hrun
  exact ⟨(List.forall₂_cons.mp hlinks).1, hagain⟩

end Trip

end TripProposal
