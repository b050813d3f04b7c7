import Mathlib.Data.List.Basic
import Mathlib.Data.List.Pairwise
import TripProposal.Proofs.Value.Difference
import TripProposal.Trip.Extras

/-!
# Ranking extras

Ranked extras are the extras of each priority, the most urgent priority first, those of one priority
in the order in which they were written. An extra has exactly one priority and takes the fields that
show it; it keeps all others.
-/

namespace TripProposal.Trip

open Fields Text Value

/-! ### Sorting by rank -/

section Sorting

variable {α : Type} {rank : α → Nat} {ranks : List Nat} {items : List α} {n : Nat}

lemma rank_le_trans (rank : α → Nat) (a b c : α) (hab : decide (rank a ≤ rank b) = true)
    (hbc : decide (rank b ≤ rank c) = true) : decide (rank a ≤ rank c) = true := by
  simp only [decide_eq_true_eq] at hab hbc ⊢
  exact Nat.le_trans hab hbc

lemma rank_le_total (rank : α → Nat) (a b : α) :
    (decide (rank a ≤ rank b) || decide (rank b ≤ rank a)) = true := by
  simpa using Nat.le_total (rank a) (rank b)

/-- Sorting puts items in the order of their ranks. -/
lemma pairwise_mergeSort_rank (rank : α → Nat) (items : List α) :
    (items.mergeSort fun a b => rank a ≤ rank b).Pairwise fun a b => rank a ≤ rank b := by
  simpa using List.pairwise_mergeSort (rank_le_trans rank) (rank_le_total rank) items

/-- Sorting by rank leaves the items of one rank in their order. -/
lemma filter_mergeSort_rank (rank : α → Nat) (n : Nat) (items : List α) :
    (items.mergeSort fun a b => rank a ≤ rank b).filter (rank · = n) =
      items.filter (rank · = n) := by
  have hsorted : (items.filter (rank · = n)).Pairwise
      fun a b => decide (rank a ≤ rank b) = true := by
    refine List.pairwise_of_forall_mem_list fun a ha b hb => ?_
    simp only [List.mem_filter, decide_eq_true_eq] at ha hb ⊢
    omega
  have hkept : (items.filter (rank · = n)).filter (rank · = n) = items.filter (rank · = n) := by
    simp
  have hsublist := (List.sublist_mergeSort (rank_le_trans rank) (rank_le_total rank) hsorted
    List.filter_sublist).filter (rank · = n)
  rw [hkept] at hsublist
  exact (hsublist.eq_of_length ((List.mergeSort_perm items _).filter _).length_eq.symm).symm

/-- In a sorted list the items of the least rank come first. -/
lemma filter_append_filter_of_pairwise (hs : items.Pairwise fun a b => rank a ≤ rank b)
    (hn : ∀ a ∈ items, n ≤ rank a) :
    items.filter (rank · = n) ++ items.filter (rank · ≠ n) = items := by
  induction items with
  | nil => rfl
  | cons a items ih =>
    rw [List.pairwise_cons] at hs
    by_cases ha : rank a = n
    · simpa [ha] using ih hs.2 fun b hb => hn b (List.mem_cons_of_mem a hb)
    · have hrest : ∀ b ∈ items, rank b ≠ n := by
        intro b hb hbn
        have hab := hs.1 b hb
        have hna := hn a List.mem_cons_self
        omega
      have hnone : items.filter (rank · = n) = [] := by simpa using hrest
      have hall : items.filter (rank · ≠ n) = items := by simpa using hrest
      rw [List.filter_cons_of_neg (by simpa using ha), hnone, List.filter_cons_of_pos
        (by simpa using ha), hall, List.nil_append]

/-- A sorted list is the items of each rank, one rank after the other. -/
lemma eq_flatMap_filter_of_pairwise (hs : items.Pairwise fun a b => rank a ≤ rank b)
    (hranks : ranks.Pairwise (· < ·)) (hmem : ∀ a ∈ items, rank a ∈ ranks) :
    items = ranks.flatMap fun n => items.filter (rank · = n) := by
  induction ranks generalizing items with
  | nil => simpa using List.eq_nil_iff_forall_not_mem.mpr fun a ha => List.not_mem_nil (hmem a ha)
  | cons n ranks ih =>
    rw [List.pairwise_cons] at hranks
    -- The items of the first rank stand in front, the others have the remaining ranks.
    have hleast : ∀ a ∈ items, n ≤ rank a := by
      intro a ha
      rcases List.mem_cons.mp (hmem a ha) with hn | hn
      · exact Nat.le_of_eq hn.symm
      · exact Nat.le_of_lt (hranks.1 _ hn)
    have hbehind : ∀ a ∈ items.filter (rank · ≠ n), rank a ∈ ranks := by
      intro a ha
      rw [List.mem_filter, decide_eq_true_eq] at ha
      exact (List.mem_cons.mp (hmem a ha.1)).resolve_left ha.2
    have hkept : ∀ m ∈ ranks, (items.filter (rank · ≠ n)).filter (rank · = m) =
        items.filter (rank · = m) := by
      intro m hm
      have hnm := hranks.1 m hm
      rw [List.filter_filter]
      refine List.filter_congr fun a _ => ?_
      rw [← Bool.decide_and, decide_eq_decide]
      omega
    calc items
      _ = items.filter (rank · = n) ++ items.filter (rank · ≠ n) :=
          (filter_append_filter_of_pairwise hs hleast).symm
      _ = items.filter (rank · = n) ++ ranks.flatMap fun m =>
            (items.filter (rank · ≠ n)).filter (rank · = m) :=
          congrArg _ (ih (hs.filter _) hranks.2 hbehind)
      _ = (n :: ranks).flatMap fun m => items.filter (rank · = m) := by
          rw [List.flatMap_congr hkept, List.flatMap_cons]

end Sorting

/-! ### Priorities -/

variable {v : Value} {p : Priority}

lemma ofValue_name (p : Priority) : Priority.ofValue (some (.text p.name)) = p := by
  cases p <;> decide

/-- The priority that an extra has. -/
inductive HasPriority : Value → Priority → Prop
  /-- A text names it, in any letter case. -/
  | named {extra : Fields} {s : Text} {p : Priority} (h : get? "priority" extra = some (.text s))
    (hs : onString lower s = p.name) : HasPriority (.object extra) p
  | unnamed {extra : Fields} (h : ∀ s, get? "priority" extra = some (.text s) →
      ∀ p : Priority, onString lower s ≠ p.name) : HasPriority (.object extra) .medium
  | other {v : Value} (h : v.isObject = false) : HasPriority v .medium

lemma empty_ne_name (p : Priority) : "" ≠ p.name := by
  cases p <;> decide

lemma ofValue_of_lowered {o : Option Value} (h : lowered o = p.name) :
    Priority.ofValue o = p := by
  cases p <;> simp [Priority.ofValue, Priority.all, Priority.name, h]

lemma ofValue_of_ne {o : Option Value} (h : ∀ p : Priority, lowered o ≠ p.name) :
    Priority.ofValue o = .medium := by
  have hnone : (Priority.all.find? fun p => p.name == lowered o) = none := by
    simp [fun p => Ne.symm (h p)]
  rw [Priority.ofValue, hnone]
  rfl

lemma HasPriority.priorityOf_eq (h : HasPriority v p) : priorityOf v = p := by
  cases h with
  | @named extra s p h hs =>
    refine ofValue_of_lowered ?_
    rw [field?, h]
    exact hs
  | @unnamed extra h =>
    refine ofValue_of_ne fun p => ?_
    rw [field?]
    cases hv : get? "priority" extra with
    | none => exact empty_ne_name p
    | some v =>
      cases v with
      | text s => exact h s hv p
      | _ => exact empty_ne_name p
  | other h =>
    cases v with
    | object extra => cases h
    | _ => rfl

lemma exists_hasPriority (v : Value) : ∃ p, HasPriority v p := by
  cases v with
  | object extra =>
    by_cases hnamed : ∃ s p, get? "priority" extra = some (.text s) ∧
        onString lower s = Priority.name p
    · obtain ⟨s, p, h, hs⟩ := hnamed
      exact ⟨p, .named h hs⟩
    · exact ⟨.medium, .unnamed fun s h p hs => hnamed ⟨s, p, h, hs⟩⟩
  | _ => exact ⟨.medium, .other rfl⟩

/-- What counts as a priority is what ranking reads. -/
lemma hasPriority_iff : HasPriority v p ↔ priorityOf v = p := by
  constructor
  · exact HasPriority.priorityOf_eq
  · rintro rfl
    obtain ⟨p, hp⟩ := exists_hasPriority v
    exact hp.priorityOf_eq ▸ hp

instance : Decidable (HasPriority v p) :=
  decidable_of_iff (priorityOf v = p) hasPriority_iff.symm

/-! ### Shown extras -/

/-- The fields that show the priority of an extra. -/
def priorityNames : List Text := ["priority", "priorityClass", "badgeLabel"]

/-- How an extra of a priority is shown. -/
inductive ShownAs (p : Priority) : Value → Value → Prop
  | object {extra shown : Fields} (rest : SameExcept priorityNames extra shown)
    (keys : shown.map Prod.fst =
      extra.map Prod.fst ++ priorityNames.filter (· ∉ extra.map Prod.fst))
    (priority : get? "priority" shown = some (.text p.name))
    (priorityClass : get? "priorityClass" shown = some (.text p.name))
    (badge : get? "badgeLabel" shown = some (.text p.badge)) :
    ShownAs p (.object extra) (.object shown)
  | other {v : Value} (h : v.isObject = false) : ShownAs p v v

/-- Ranking shows an extra with its priority. -/
lemma shownAs_withPriority (v : Value) : ShownAs (priorityOf v) v (withPriority v) := by
  cases v with
  | object extra =>
    refine .object ?_ ?_ ?_ ?_ ?_
    · intro key hkey
      simp only [priorityNames, List.mem_cons, List.not_mem_nil, or_false, not_or] at hkey
      simp [putAll, Ne.symm hkey.1, Ne.symm hkey.2.1, Ne.symm hkey.2.2]
    · exact map_fst_putAll (by simp) extra
    · simp [putAll, priorityOf, field?]
    · simp [putAll, priorityOf, field?]
    · simp [putAll, priorityOf, field?]
  | _ => exact .other rfl

/-- The priority that is shown is the one that was read. -/
lemma priorityOf_withPriority (v : Value) : priorityOf (withPriority v) = priorityOf v := by
  cases v with
  | object extra => simp [withPriority, putAll, priorityOf, field?, ofValue_name]
  | _ => rfl

/-- An extra that has the fields of its priority keeps them. -/
lemma withPriority_withPriority (v : Value) : withPriority (withPriority v) = withPriority v := by
  cases v with
  | object extra =>
    have hpriority := priorityOf_withPriority (.object extra)
    simp only [withPriority, priorityOf, field?] at hpriority ⊢
    rw [hpriority]
    refine congrArg Value.object (putAll_eq_self ?_)
    simp [putAll]
  | _ => rfl

/-! ### Ranked extras -/

/-- Ranked extras are in the order of their priorities. -/
lemma pairwise_rankExtras (extras : List Value) :
    (rankExtras extras).Pairwise fun a b => (priorityOf a).rank ≤ (priorityOf b).rank :=
  pairwise_mergeSort_rank (fun v => (priorityOf v).rank) (extras.map withPriority)

/-- Extras that are ranked stay in their order. -/
lemma rankExtras_rankExtras (extras : List Value) :
    rankExtras (rankExtras extras) = rankExtras extras := by
  have hmap : (rankExtras extras).map withPriority = rankExtras extras := by
    have hsame : ∀ v ∈ rankExtras extras, withPriority v = id v := by
      intro v hv
      obtain ⟨u, -, rfl⟩ := List.mem_map.mp (List.mem_mergeSort.mp hv)
      exact withPriority_withPriority u
    rw [List.map_congr_left hsame, List.map_id]
  have hsorted := pairwise_rankExtras extras
  rw [rankExtras, hmap]
  exact List.mergeSort_of_pairwise (by simpa using hsorted)

/-- No two priorities have one rank. -/
lemma rank_eq_iff {p q : Priority} : p.rank = q.rank ↔ p = q := by
  cases p <;> cases q <;> decide

/-- The extras of a priority stay in their order. -/
lemma filter_rankExtras (extras : List Value) (p : Priority) :
    (rankExtras extras).filter (fun v => (priorityOf v).rank = p.rank) =
      (extras.filter (HasPriority · p)).map withPriority := by
  rw [rankExtras, filter_mergeSort_rank fun v => (priorityOf v).rank, List.filter_map]
  refine congrArg _ (List.filter_congr fun v _ => ?_)
  rw [Function.comp_apply, decide_eq_decide, priorityOf_withPriority, rank_eq_iff, hasPriority_iff]

lemma rankRecommendedExtras_eq (trip : Fields) :
    rankRecommendedExtras trip = changeList "recommendedExtras" rankExtras trip := by
  unfold rankRecommendedExtras
  split
  · next extras hv => rw [changeList_of_get? hv]
  · next hv => rw [changeList_of_not_list hv]

/-- Ranked extras are the extras of each priority in order. Every extra has exactly one priority and
is shown as one of it, and ranking again changes nothing. -/
theorem rankExtras_eq_flatMap (extras : List Value) :
    rankExtras extras = [Priority.high, .recommended, .medium, .splurge].flatMap
      (fun p => (extras.filter (HasPriority · p)).map withPriority) ∧
    (∀ v, ∃ p, (∀ q, HasPriority v q ↔ q = p) ∧ ShownAs p v (withPriority v)) ∧
    rankExtras (rankExtras extras) = rankExtras extras := by
  refine ⟨?_, fun v => ⟨priorityOf v, fun q => ?_, shownAs_withPriority v⟩,
    rankExtras_rankExtras extras⟩
  · have hranks : ∀ v ∈ rankExtras extras, (priorityOf v).rank ∈ [0, 1, 2, 3] := by
      intro v _
      cases priorityOf v <;> decide
    calc rankExtras extras
      _ = [0, 1, 2, 3].flatMap fun n =>
            (rankExtras extras).filter fun v => (priorityOf v).rank = n :=
          eq_flatMap_filter_of_pairwise (pairwise_rankExtras extras) (by decide) hranks
      _ = Priority.all.flatMap fun p =>
            (rankExtras extras).filter fun v => (priorityOf v).rank = p.rank := rfl
      _ = Priority.all.flatMap fun p => (extras.filter (HasPriority · p)).map withPriority :=
          List.flatMap_congr fun p _ => filter_rankExtras extras p
  · rw [hasPriority_iff, eq_comm]

end TripProposal.Trip
