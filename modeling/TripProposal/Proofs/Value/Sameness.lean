import TripProposal.Proofs.Number.Equality
import TripProposal.Value.Basic

/-!
# Values that are the same

Sameness is transitive: numbers are the same by their exact value, of which a NaN has none, lists
item by item, and objects field by field whatever their order. So a list that has a value may drop
every later one that is the same, and looking among the values that are kept is looking among all.
-/

namespace TripProposal.Value

open Number

variable {a b c : Value} {w : ℚ ⊕ Bool}

/-! ### Numbers -/

/-- The exact number that a value counts as. -/
def exactValue? : Value → Option (ℚ ⊕ Bool)
  | .float x => x.exactValue?
  | v => v.whole?.map fun n => .inl n

/-- A number that is the same as a whole one has its exact value. -/
lemma map_equalsInt_iff (x : Binary64) (n : Option Int) : n.map x.equalsInt = some true ↔
    x.exactValue?.isSome ∧ x.exactValue? = n.map fun n => .inl n := by
  cases n with
  | none => cases x.exactValue? <;> simp
  | some n =>
    rw [Option.map_some, Option.some.injEq, Binary64.equalsInt_iff]
    exact ⟨fun h => ⟨by rw [h, Option.isSome_some], h⟩, fun h => h.2⟩

/-- Values are equal as numbers when they count as the same exact number. -/
lemma numbersEqual?_iff (a b : Value) :
    numbersEqual? a b = some true ↔ a.exactValue?.isSome ∧ a.exactValue? = b.exactValue? := by
  cases a with
  | float x =>
    have hwhole := map_equalsInt_iff x b.whole?
    cases b with
    | float y => simpa [numbersEqual?, exactValue?] using x.equals_iff y
    | _ => exact hwhole
  | _ =>
    have hequals := fun x n => (Binary64.equalsInt_iff x n).trans eq_comm
    cases b <;> simp [numbersEqual?, exactValue?, whole?, hequals, -Int.cast_ite]

lemma isNaN_eq_false_of_exactValue? (h : b.exactValue? = some w) : b.isNaN = false := by
  cases b with
  | float x =>
    cases x with
    | nan => cases h
    | _ => rfl
  | _ => rfl

/-- Only a NaN is the same as a NaN. -/
lemma isNaN_of_sameAs (hab : sameAs a b = true) (hb : b.isNaN = true) : a.isNaN = true := by
  cases b with
  | float x =>
    cases x with
    | nan =>
      have hunequal : numbersEqual? a (.float .nan) ≠ some true := by
        rw [ne_eq, numbersEqual?_iff]
        rintro ⟨hvalue, heq⟩
        rw [heq] at hvalue
        cases hvalue
      simpa [sameAs, hunequal, Binary64.isNaN] using hab
    | _ => cases hb
  | _ => cases hb

/-- A value is the same as a number when it counts as that number. -/
lemma sameAs_iff_of_exactValue? (h : b.exactValue? = some w) :
    sameAs a b = true ↔ a.exactValue? = some w := by
  have hnumbers : numbersEqual? a b = some true ↔ a.exactValue? = some w := by
    rw [numbersEqual?_iff, h]
    exact ⟨fun ha => ha.2, fun ha => ⟨by rw [ha, Option.isSome_some], ha⟩⟩
  cases b with
  | bool _ => simpa [sameAs] using hnumbers
  | int _ => simpa [sameAs] using hnumbers
  | float x =>
    have hx : x.isNaN = false := isNaN_eq_false_of_exactValue? h
    simpa [sameAs, hx] using hnumbers
  | _ => cases h

/-- What is the same as a number equals all that this number equals. -/
lemma numbersEqual?_of_sameAs (hab : sameAs a b = true) (hbc : numbersEqual? b c = some true) :
    numbersEqual? a c = some true := by
  rw [numbersEqual?_iff] at hbc ⊢
  obtain ⟨w, hw⟩ := Option.isSome_iff_exists.mp hbc.1
  have ha : a.exactValue? = b.exactValue? := ((sameAs_iff_of_exactValue? hw).mp hab).trans hw.symm
  rw [ha]
  exact hbc

/-! ### Transitivity -/

/-- Same objects have the same value under each key. -/
lemma exists_sameAs_of_get? {as bs : Fields} (h : sameFields as bs = true) {key : Text}
    (hb : Fields.get? key bs = some b) :
    ∃ a, Fields.get? key as = some a ∧ sameAs a b = true := by
  induction bs with
  | nil => cases hb
  | cons field bs ih =>
    obtain ⟨k, v⟩ := field
    rw [sameFields, Bool.and_eq_true] at h
    rw [Fields.get?] at hb
    split at hb
    · next hk =>
      subst hk
      cases hb
      cases ha : Fields.get? k as with
      | none => simp [ha] at h
      | some a => exact ⟨a, rfl, by simpa [ha] using h.1⟩
    · exact ih h.2 hb

mutual

/-- Values that are the same as one are the same. -/
lemma sameAs_trans {a b : Value} : ∀ {c : Value}, sameAs a b = true → sameAs b c = true →
    sameAs a c = true
  -- On the last value: it decides which comparison was made with the one in the middle.
  | .null, hab, hbc => by
    cases b with
    | null => exact hab
    | _ => cases hbc
  | .bool _, hab, hbc | .int _, hab, hbc => by
    rw [sameAs, beq_iff_eq] at hbc ⊢
    exact numbersEqual?_of_sameAs hab hbc
  | .float _, hab, hbc => by
    rw [sameAs, Bool.or_eq_true, Bool.and_eq_true, beq_iff_eq] at hbc ⊢
    exact hbc.imp (numbersEqual?_of_sameAs hab) (.imp_left (isNaN_of_sameAs hab))
  | .text s, hab, hbc => by
    rw [sameAs, beq_iff_eq] at hbc
    cases b with
    | text _ =>
      cases hbc
      exact hab
    | _ => cases hbc
  | .list cs, hab, hbc => by
    cases b with
    | list bs =>
      cases a with
      | list as => exact sameItems_trans hab hbc
      | _ => simp [sameAs] at hab
    | _ => simp [sameAs] at hbc
  | .object cs, hab, hbc => by
    cases b with
    | object bs =>
      cases a with
      | object as =>
        rw [sameAs, Bool.and_eq_true, beq_iff_eq] at hab hbc ⊢
        exact ⟨hab.1.trans hbc.1, sameFields_trans hab.2 hbc.2⟩
      | _ => simp [sameAs] at hab
    | _ => simp [sameAs] at hbc

lemma sameItems_trans {as bs : List Value} : ∀ {cs : List Value}, sameItems as bs = true →
    sameItems bs cs = true → sameItems as cs = true
  | [], hab, hbc => by
    obtain rfl := List.isEmpty_iff.mp hbc
    exact hab
  | c :: cs, hab, hbc => by
    cases bs with
    | nil => cases hbc
    | cons b bs =>
      cases as with
      | nil => cases hab
      | cons a as =>
        simp only [sameItems, Bool.and_eq_true] at hab hbc ⊢
        exact ⟨sameAs_trans hab.1 hbc.1, sameItems_trans hab.2 hbc.2⟩

/-- Partners of fields under one key are the same one by one, so the order plays no part. -/
lemma sameFields_trans {as bs : Fields} : ∀ {cs : List (Text × Value)},
    sameFields as bs = true → sameFields bs cs = true → sameFields as cs = true
  | [], _, _ => rfl
  | (k, c) :: cs, hab, hbc => by
    rw [sameFields, Bool.and_eq_true] at hbc ⊢
    refine ⟨?_, sameFields_trans hab hbc.2⟩
    cases hb : Fields.get? k bs with
    | none => simp [hb] at hbc
    | some b =>
      obtain ⟨a, ha, hsame⟩ := exists_sameAs_of_get? hab hb
      have hrest : sameAs b c = true := by simpa [hb] using hbc.1
      rw [ha]
      exact sameAs_trans hsame hrest

end

end TripProposal.Value
