import Mathlib.Data.List.Induction
import Mathlib.Data.List.Nodup
import Mathlib.Tactic.Common
import TripProposal.Trip.Images

/-!
# Merging images

Merging appends to a list of images those of a second list that are new. The result is an ordered
union by address: each address of either list is there, none is appended twice, and lists may be
merged one after the other in any grouping. What is seen while the second list is walked are the
addresses of the list that is built so far.
-/

namespace TripProposal.Trip

variable {images others more : List Value} {image : Value} {seen seen' : List Text}
  {address : Text}

/-! ### Addresses -/

/-- The addresses of images, in order. -/
def addresses (images : List Value) : List Text :=
  images.filterMap imageAddress?

@[simp] lemma addresses_append (images more : List Value) :
    addresses (images ++ more) = addresses images ++ addresses more :=
  List.filterMap_append

lemma addresses_cons_of_none (h : imageAddress? image = none) :
    addresses (image :: more) = addresses more :=
  List.filterMap_cons_none h

lemma addresses_cons_of_some (h : imageAddress? image = some address) :
    addresses (image :: more) = address :: addresses more :=
  List.filterMap_cons_some h

/-! ### Unseen images -/

/-- Only the set of seen addresses counts. -/
lemma unseenImages_congr (h : ∀ address, address ∈ seen ↔ address ∈ seen') (more : List Value) :
    unseenImages seen more = unseenImages seen' more := by
  induction more generalizing seen seen' with
  | nil => rfl
  | cons image more ih =>
    cases ha : imageAddress? image with
    | none => simpa [unseenImages, ha] using ih h
    | some address =>
      have hcons : ∀ other, other ∈ address :: seen ↔ other ∈ address :: seen' := by
        intro other
        simp [h other]
      simp [unseenImages, ha, h address, ih h, ih hcons]

/-- The addresses of unseen images are those that were not seen before. -/
lemma mem_addresses_unseenImages :
    address ∈ addresses (unseenImages seen more) ↔ address ∈ addresses more ∧ address ∉ seen := by
  fun_induction unseenImages seen more with
  | case1 seen => simp [addresses]
  | case2 seen image more other h hs ih =>
    have hseen : other ∈ seen := List.contains_iff_mem.mp hs
    rw [ih, addresses_cons_of_some h, List.mem_cons]
    grind
  | case3 seen image more other h hs ih =>
    have hseen : other ∉ seen := fun hmem => hs (List.contains_iff_mem.mpr hmem)
    rw [addresses_cons_of_some h, addresses_cons_of_some h, List.mem_cons, List.mem_cons, ih]
    grind
  | case4 seen image more h ih => rw [ih, addresses_cons_of_none h]

/-- No address is taken twice. -/
lemma nodup_addresses_unseenImages (seen : List Text) (more : List Value) :
    (addresses (unseenImages seen more)).Nodup := by
  fun_induction unseenImages seen more with
  | case1 seen => exact List.nodup_nil
  | case2 seen image more other h hs ih => exact ih
  | case3 seen image more other h hs ih =>
    rw [addresses_cons_of_some h, List.nodup_cons, mem_addresses_unseenImages]
    refine ⟨fun hmem => hmem.2 List.mem_cons_self, ih⟩
  | case4 seen image more h ih => exact ih

/-- Nothing is taken of what was seen. -/
lemma unseenImages_eq_nil (h : addresses more ⊆ seen) : unseenImages seen more = [] := by
  fun_induction unseenImages seen more with
  | case1 seen => rfl
  | case2 seen image more other ha hs ih =>
    rw [addresses_cons_of_some ha, List.cons_subset] at h
    exact ih h.2
  | case3 seen image more other ha hs ih =>
    rw [addresses_cons_of_some ha, List.cons_subset] at h
    exact absurd (List.contains_iff_mem.mpr h.1) hs
  | case4 seen image more ha ih => exact ih (addresses_cons_of_none ha ▸ h)

/-- Leaving out in two rounds what was seen is leaving it out in one. -/
lemma unseenImages_unseenImages (h : seen' ⊆ seen) :
    unseenImages seen (unseenImages seen' more) = unseenImages seen more := by
  induction more generalizing seen seen' with
  | nil => rfl
  | cons image more ih =>
    cases ha : imageAddress? image with
    | none => simpa [unseenImages, ha] using ih h
    | some address =>
      by_cases hs' : address ∈ seen'
      · simpa [unseenImages, ha, hs', h hs'] using ih h
      · by_cases hs : address ∈ seen
        · simpa [unseenImages, ha, hs', hs] using ih (List.cons_subset.mpr ⟨hs, h⟩)
        · simpa [unseenImages, ha, hs', hs] using ih (List.cons_subset_cons address h)

/-- What is taken from a list counts as seen in the next one. -/
lemma unseenImages_append (seen : List Text) (more rest : List Value) :
    unseenImages seen (more ++ rest) =
      unseenImages seen more ++ unseenImages (addresses (unseenImages seen more) ++ seen) rest := by
  induction more generalizing seen with
  | nil => rfl
  | cons image more ih =>
    cases ha : imageAddress? image with
    | none => simpa [unseenImages, ha] using ih seen
    | some address =>
      by_cases hs : address ∈ seen
      · simpa [unseenImages, ha, hs] using ih seen
      · have hrest : ∀ other, other ∈ addresses (unseenImages (address :: seen) more) ++
            address :: seen ↔ other ∈ address :: addresses (unseenImages (address :: seen) more) ++
              seen := by
          intro other
          simp only [List.mem_append, List.mem_cons]
          tauto
        simp [unseenImages, ha, hs, ih, addresses_cons_of_some ha, unseenImages_congr hrest]

/-! ### One image after the other -/

/-- An image is new beside others when it has an address that none of them has. -/
def IsNew (others : List Value) (image : Value) : Prop :=
  ∃ address ∈ imageAddress? image, address ∉ addresses others

instance (others : List Value) : DecidablePred (IsNew others) := fun image =>
  inferInstanceAs (Decidable (∃ address ∈ imageAddress? image, address ∉ addresses others))

lemma isNew_congr (h : ∀ address, address ∈ addresses images ↔ address ∈ addresses others) :
    IsNew images image ↔ IsNew others image := by
  simp [IsNew, h]

/-- Images that are merged one after the other may be cut into two lists. -/
lemma mergeImages_append (images more rest : List Value) :
    mergeImages images (more ++ rest) = mergeImages (mergeImages images more) rest := by
  have hseen : ∀ address, address ∈ addresses (unseenImages (addresses images) more) ++
      addresses images ↔ address ∈ addresses (mergeImages images more) := by
    intro address
    rw [mergeImages, addresses_append, List.mem_append, List.mem_append, or_comm]
    rfl
  calc mergeImages images (more ++ rest)
    _ = images ++ (unseenImages (addresses images) more ++
          unseenImages (addresses (unseenImages (addresses images) more) ++ addresses images)
            rest) := by rw [← unseenImages_append]; rfl
    _ = mergeImages images more ++ unseenImages (addresses (mergeImages images more)) rest := by
        rw [unseenImages_congr hseen, ← List.append_assoc]; rfl
    _ = mergeImages (mergeImages images more) rest := rfl

/-- An image is appended when it is new. -/
lemma mergeImages_singleton (images : List Value) (image : Value) :
    mergeImages images [image] = images ++ if IsNew images image then [image] else [] := by
  cases ha : imageAddress? image with
  | none => simp [mergeImages, unseenImages, IsNew, ha]
  | some address =>
    by_cases hs : address ∈ addresses images
    · simp [mergeImages, unseenImages, IsNew, ha, hs, ← addresses.eq_def]
    · simp [mergeImages, unseenImages, IsNew, ha, hs, ← addresses.eq_def]

/-- The images of a second list that are new beside the first list and those in front of them. -/
def newImages (images more : List Value) : List Value :=
  (more.zipIdx.filter fun (image, n) => IsNew (images ++ more.take n) image).map Prod.fst

/-- The last image is taken when it is new. -/
lemma newImages_concat (images more : List Value) (image : Value) :
    newImages images (more ++ [image]) =
      newImages images more ++ if IsNew (images ++ more) image then [image] else [] := by
  have hbefore : more.zipIdx.filter (fun (v, n) => IsNew (images ++ (more ++ [image]).take n) v) =
      more.zipIdx.filter fun (v, n) => IsNew (images ++ more.take n) v := by
    refine List.filter_congr fun (v, n) hv => ?_
    have hn : n < more.length := by simpa using List.snd_lt_of_mem_zipIdx hv
    simp only [List.take_append_of_le_length (Nat.le_of_lt hn)]
  rw [newImages, List.zipIdx_append, List.filter_append, List.map_append, hbefore]
  refine congrArg (newImages images more ++ ·) ?_
  split
  · next hnew => simp [hnew]
  · next hold => simp [hold]

/-- A union has the addresses of both lists. -/
lemma mem_addresses_mergeImages : address ∈ addresses (mergeImages images more) ↔
    address ∈ addresses images ∨ address ∈ addresses more := by
  have hunseen : address ∈ addresses (unseenImages (addresses images) more) ↔ _ :=
    mem_addresses_unseenImages
  rw [mergeImages, addresses_append, List.mem_append, ← addresses, hunseen]
  tauto

/-- What merging appends are the new images of the second list. -/
lemma mergeImages_eq (images more : List Value) :
    mergeImages images more = images ++ newImages images more := by
  induction more using List.reverseRecOn with
  | nil => rfl
  | append_singleton more image ih =>
    have hnew : IsNew (mergeImages images more) image ↔ IsNew (images ++ more) image := by
      refine isNew_congr fun address => ?_
      rw [mem_addresses_mergeImages, addresses_append, List.mem_append]
    rw [mergeImages_append, mergeImages_singleton, newImages_concat, ih, List.append_assoc]
    rw [ih] at hnew
    simp only [hnew]

/-! ### Ordered union -/

/-- A list of images is the union of two lists in order, images with one address being one image. -/
structure IsUnion (images more union : List Value) : Prop where
  /-- The first list is followed by what is new in the second one. -/
  order : union = images ++ newImages images more
  complete : ∀ address,
    address ∈ addresses union ↔ address ∈ addresses images ∨ address ∈ addresses more
  /-- An address that is appended is there once. -/
  once : ∀ address ∈ addresses (newImages images more), (addresses union).count address = 1

/-- The appended addresses are new beside the first list and differ from each other. -/
lemma count_addresses_mergeImages (h : address ∈ addresses (newImages images more)) :
    (addresses (mergeImages images more)).count address = 1 := by
  have hnew : newImages images more = unseenImages (addresses images) more :=
    List.append_cancel_left (mergeImages_eq images more).symm
  rw [hnew] at h
  have hfirst : (addresses images).count address = 0 :=
    List.count_eq_zero.mpr (mem_addresses_unseenImages.mp h).2
  have hsecond : (addresses (unseenImages (addresses images) more)).count address = 1 :=
    List.count_eq_one_of_mem (nodup_addresses_unseenImages _ _) h
  rw [mergeImages_eq, hnew, addresses_append, List.count_append, hfirst, hsecond]

/-- Images whose addresses are there already add nothing. -/
lemma mergeImages_eq_self (h : addresses more ⊆ addresses images) :
    mergeImages images more = images := by
  have hnone : unseenImages (addresses images) more = [] := unseenImages_eq_nil h
  exact (congrArg (images ++ ·) hnone).trans (List.append_nil images)

/-- Merging is an ordered union by address. Doing it again adds nothing, and three lists may be
merged from either side. -/
theorem isUnion_mergeImages (images more rest : List Value) :
    IsUnion images more (mergeImages images more) ∧
    mergeImages (mergeImages images more) more = mergeImages images more ∧
    mergeImages (mergeImages images more) rest = mergeImages images (mergeImages more rest) := by
  refine ⟨⟨mergeImages_eq images more, fun _ => mem_addresses_mergeImages,
    fun _ => count_addresses_mergeImages⟩, ?_, ?_⟩
  · exact mergeImages_eq_self fun address h => mem_addresses_mergeImages.mpr (.inr h)
  · have hmore : addresses more ⊆ addresses (mergeImages images more) :=
      fun address h => mem_addresses_mergeImages.mpr (.inr h)
    calc mergeImages (mergeImages images more) rest
      _ = mergeImages (mergeImages images more) (unseenImages (addresses more) rest) :=
          congrArg (mergeImages images more ++ ·) (unseenImages_unseenImages hmore).symm
      _ = mergeImages images (more ++ unseenImages (addresses more) rest) :=
          (mergeImages_append images more _).symm
      _ = mergeImages images (mergeImages more rest) := rfl

/-- Images are the same when their addresses are, however they are written. -/
example : mergeImages [.object [("url", .text "a.jpg")]]
    [.text "a.jpg", .object [("urls", .object [("original", .text "b.jpg")])],
      .object [("url", .text "b.jpg")], .object [("alt", .text "x")]] =
    [.object [("url", .text "a.jpg")],
      .object [("urls", .object [("original", .text "b.jpg")])]] := rfl

end TripProposal.Trip
