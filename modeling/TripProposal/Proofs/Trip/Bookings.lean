import Mathlib.Data.List.Forall2
import TripProposal.Proofs.Outcomes
import TripProposal.Proofs.Value.Lists
import TripProposal.Proofs.Value.Number
import TripProposal.Trip.Workspace

/-!
# Augmented bookings

Bookings are augmented one by one. A booking can be augmented unless its balance is a whole number
beyond the range of numbers; no other value of any field stops it.
-/

namespace TripProposal.Trip

variable {plans bookings augmented : List Value} {booking fields : Fields} {v w : Value}

lemma augmentBooking_eq_ok_iff : augmentBooking plans booking = .ok fields ↔
    ∃ b, showsBalance ((Fields.get? "balance" booking).getD .null) = .ok b ∧
      Fields.putAll (bookingDisplay plans b booking) (Fields.erase "travelers" booking) = fields :=
  map_eq_ok_iff

/-- A booking can be augmented unless its balance is beyond the range of numbers. -/
lemma exists_augmentBooking (plans : List Value) (booking : Fields) :
    (∃ fields, augmentBooking plans booking = .ok fields) ↔
      ¬ ((Fields.get? "balance" booking).getD .null).IsBeyondRange := by
  unfold augmentBooking showsBalance
  rw [exists_map_eq_ok, exists_map_eq_ok, Value.exists_number?]

/-- What augmenting bookings makes of a value in their list. -/
inductive AugmentsTo (plans : List Value) : Value → Value → Prop
  | booking {booking fields : Fields} (h : augmentBooking plans booking = .ok fields) :
    AugmentsTo plans (.object booking) (.object fields)
  /-- What is no object stays. -/
  | other {v : Value} (h : ∀ booking, v ≠ .object booking) : AugmentsTo plans v v

lemma augmentsTo_object : AugmentsTo plans (.object booking) w ↔
    ∃ fields, augmentBooking plans booking = .ok fields ∧ w = .object fields := by
  constructor
  · intro h
    cases h with
    | booking h => exact ⟨_, h, rfl⟩
    | other h => exact absurd rfl (h booking)
  · rintro ⟨fields, h, rfl⟩
    exact .booking h

lemma augmentsTo_other (hv : ∀ booking, v ≠ .object booking) : AugmentsTo plans v w ↔ w = v := by
  constructor
  · intro h
    cases h with
    | booking h => exact absurd rfl (hv _)
    | other h => rfl
  · rintro rfl
    exact .other hv

/-- Bookings are augmented when each of them is. -/
lemma augmentAll_eq_ok_iff :
    augmentAll plans bookings = .ok augmented ↔
      List.Forall₂ (AugmentsTo plans) bookings augmented := by
  induction bookings generalizing augmented with
  | nil => simp [augmentAll, eq_comm]
  | cons v bookings ih =>
    rw [List.forall₂_cons_left_iff]
    by_cases hv : ∃ booking, v = .object booking
    · obtain ⟨booking, rfl⟩ := hv
      simp only [augmentAll, bind_eq_ok_iff, augmentsTo_object, ← ih]
      constructor
      · rintro ⟨fields, hfields, rest, hrest, ⟨⟩⟩
        exact ⟨_, _, ⟨fields, hfields, rfl⟩, hrest, rfl⟩
      · rintro ⟨_, rest, ⟨fields, hfields, rfl⟩, hrest, rfl⟩
        exact ⟨fields, hfields, rest, hrest, rfl⟩
    · have hv : ∀ booking, v ≠ .object booking := fun booking h => hv ⟨booking, h⟩
      have hcons : augmentAll plans (v :: bookings) = (augmentAll plans bookings).map (v :: ·) := by
        cases v with
        | object booking => exact absurd rfl (hv booking)
        | _ => rfl
      simp only [hcons, map_eq_ok_iff, augmentsTo_other hv, ← ih]
      constructor
      · rintro ⟨rest, hrest, rfl⟩
        exact ⟨v, rest, rfl, hrest, rfl⟩
      · rintro ⟨_, rest, rfl, hrest, rfl⟩
        exact ⟨rest, hrest, rfl⟩

lemma exists_forall₂ {α β : Type} {R : α → β → Prop} {items : List α} :
    (∃ others, List.Forall₂ R items others) ↔ ∀ a ∈ items, ∃ b, R a b := by
  induction items with
  | nil => simp
  | cons a items ih =>
    rw [List.forall_mem_cons, ← ih]
    constructor
    · rintro ⟨others, h⟩
      cases h with
      | cons hab hrest => exact ⟨⟨_, hab⟩, _, hrest⟩
    · rintro ⟨⟨b, hab⟩, others, hrest⟩
      exact ⟨_, .cons hab hrest⟩

lemma exists_of_mem_forall₂ {α β : Type} {R : α → β → Prop} {items : List α} {others : List β}
    {b : β} (h : List.Forall₂ R items others) (hb : b ∈ others) : ∃ a ∈ items, R a b := by
  induction h with
  | nil => cases hb
  | cons hab hrest ih =>
    rcases List.mem_cons.mp hb with rfl | hb
    · exact ⟨_, List.mem_cons_self, hab⟩
    · obtain ⟨a, ha, hab⟩ := ih hb
      exact ⟨a, List.mem_cons_of_mem _ ha, hab⟩

/-- Bookings can be augmented when no balance is beyond the range. -/
lemma exists_augmentAll (plans bookings : List Value) :
    (∃ augmented, augmentAll plans bookings = .ok augmented) ↔
      ∀ booking, .object booking ∈ bookings →
        ¬ ((Fields.get? "balance" booking).getD .null).IsBeyondRange := by
  simp only [augmentAll_eq_ok_iff, exists_forall₂]
  constructor
  · intro h booking hmem
    obtain ⟨w, hw⟩ := h _ hmem
    obtain ⟨fields, hfields, -⟩ := augmentsTo_object.mp hw
    exact (exists_augmentBooking plans booking).mp ⟨fields, hfields⟩
  · intro h v hmem
    by_cases hv : ∃ booking, v = .object booking
    · obtain ⟨booking, rfl⟩ := hv
      obtain ⟨fields, hfields⟩ := (exists_augmentBooking plans booking).mpr (h booking hmem)
      exact ⟨_, .booking hfields⟩
    · exact ⟨v, .other fun booking hb => hv ⟨booking, hb⟩⟩

/-- Without a list of bookings there is nothing to augment. -/
lemma Workspace.augmentBookings_of_not_list {w : Workspace}
    (hb : ∀ items, Fields.get? "bookings" w.trip ≠ some (.list items)) :
    w.augmentBookings = .ok w := by
  unfold Workspace.augmentBookings Trip.augmentBookings
  cases hv : Fields.get? "bookings" w.trip with
  | none => rfl
  | some v =>
    cases v with
    | list items => exact absurd hv (hb items)
    | _ => rfl

/-- Augmenting bookings replaces their list, if there is one, and nothing else. -/
lemma Workspace.augmentBookings_cases {w w' : Workspace} (h : w.augmentBookings = .ok w') :
    (∃ bookings augmented, Fields.get? "bookings" w.trip = some (.list bookings) ∧
      augmentAll (insurancePlans w.trip) bookings = .ok augmented ∧
        w' = { w with
          trip := Fields.put "bookings" (.list augmented) w.trip
          plansLive := offersOptions w.trip }) ∨
      (∀ items, Fields.get? "bookings" w.trip ≠ some (.list items)) ∧ w' = w := by
  by_cases hb : ∃ bookings, Fields.get? "bookings" w.trip = some (.list bookings)
  · obtain ⟨bookings, hb⟩ := hb
    simp only [Workspace.augmentBookings, Trip.augmentBookings, hb, map_eq_ok_iff] at h
    obtain ⟨_, ⟨augmented, haugmented, rfl⟩, rfl⟩ := h
    exact .inl ⟨bookings, augmented, hb, haugmented, rfl⟩
  · have hno : ∀ items, Fields.get? "bookings" w.trip ≠ some (.list items) :=
      fun items hitems => hb ⟨items, hitems⟩
    rw [augmentBookings_of_not_list hno] at h
    exact .inr ⟨hno, (Except.ok.inj h).symm⟩

/-- The bookings of a trip can be augmented when no balance is beyond the range. -/
lemma Workspace.exists_augmentBookings (w : Workspace) :
    (∃ w', w.augmentBookings = .ok w') ↔
      ∀ booking, Fields.HasItem "bookings" booking w.trip →
        ¬ ((Fields.get? "balance" booking).getD .null).IsBeyondRange := by
  rw [Workspace.augmentBookings, exists_map_eq_ok, Trip.augmentBookings]
  split
  · next bookings hv =>
    rw [exists_map_eq_ok, exists_augmentAll]
    simp [Fields.HasItem, hv]
  · next hv =>
    refine iff_of_true ⟨_, rfl⟩ ?_
    rintro booking ⟨bookings, hb, -⟩
    exact absurd hb (hv bookings)

end TripProposal.Trip
