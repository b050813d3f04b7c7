import TripProposal.Proofs.Trip.ImageMerging
import TripProposal.Proofs.Trip.Settled
import TripProposal.Proofs.Value.Paths

/-!
# Moving the images of the cabin

Images of the cabin that stand apart from the cabin are merged into its own and leave their old
place. Whatever stands neither in one of the two places nor on the way to them stays. On the way to
the cabin there are objects afterwards, whatever was there before: a value of another type is
replaced, and so is one in the place of the images.
-/

namespace TripProposal.Trip

open Fields Value

variable {trip images : Fields} {image : Value} {items more : List Value} {address : Text}
  {path : List Text}

/-! ### Merging -/

/-- Every address of two lists of images is that of an image in the merged list. -/
lemma exists_mem_mergeImages (hm : image ∈ items ++ more)
    (ha : imageAddress? image = some address) :
    ∃ kept ∈ mergeImages items more, imageAddress? kept = some address := by
  have haddress : address ∈ addresses (items ++ more) := List.mem_filterMap.mpr ⟨image, hm, ha⟩
  rw [addresses_append, List.mem_append, ← mem_addresses_mergeImages] at haddress
  exact List.mem_filterMap.mp haddress

/-! ### Places -/

/-- Where images of the cabin stand apart from the cabin. -/
def separatePlace : List Text := ["images", "cabin"]

/-- Where images of the cabin belong. -/
def cabinPlace : List Text := ["cruiseInfo", "cabin", "images"]

/-- Whether a path leads past a place: it neither ends on the way to the place nor goes through it. -/
def IsApart (path place : List Text) : Prop :=
  ¬ path <+: place ∧ ¬ place <+: path

/-- The images that the cabin of a trip has. -/
def cabinImages (trip : Fields) : List Value :=
  listAt "images" (objectAt "cabin" (objectAt "cruiseInfo" trip))

/-- What a trip is after images of the cabin were moved to the cabin. -/
structure CabinImagesMoved (items : List Value) (trip moved : Fields) : Prop where
  rest : ∀ path, IsApart path separatePlace → IsApart path cabinPlace →
    (Value.object moved).at? path = (Value.object trip).at? path
  separate : (Value.object moved).at? separatePlace = none
  /-- Other images keep the object that they stand in, and without others there is none. -/
  images : (Value.object moved).at? ["images"] = none ↔
    ∀ key : Text, key ≠ "cabin" → (Value.object trip).at? ["images", key] = none
  cabin : (Value.object moved).at? cabinPlace = some (.list (mergeImages (cabinImages trip) items))
  /-- Each address of an image in one of the two places is that of an image of the cabin. -/
  addresses : ∀ image ∈ cabinImages trip ++ items, ∀ address, imageAddress? image = some address →
    ∃ kept ∈ cabinImages moved, imageAddress? kept = some address

/-! ### The moved trip -/

/-- Without other images their object is dropped. -/
lemma get?_images_dropCabinImages :
    get? "images" (dropCabinImages images trip) = none ↔ erase "cabin" images = [] := by
  unfold dropCabinImages
  split
  · next h => simp [get?_erase, h]
  · next h => simpa using h

lemma eq_nil_iff_get? {fields : Fields} : fields = [] ↔ ∀ key, get? key fields = none := by
  constructor
  · rintro rfl key
    rfl
  · intro h
    cases fields with
    | nil => rfl
    | cons field fields =>
      have hfield := h field.1
      simp [get?] at hfield

lemma moveCabinImages_eq (h : get? "cabin" (objectAt "images" trip) = some (.list items)) :
    moveCabinImages trip = (dropCabinImages (objectAt "images" trip)
      (put "cruiseInfo" (.object (addCabinImages items (objectAt "cruiseInfo" trip))) trip),
      [.cabinImagesMoved]) := by
  rw [moveCabinImages]
  simp only [h]

section Moved

variable (h : get? "cabin" (objectAt "images" trip) = some (.list items))

include h

/-- The images without those of the cabin remain. -/
lemma images_moveCabinImages :
    objectAt "images" (moveCabinImages trip).1 = erase "cabin" (objectAt "images" trip) := by
  rw [moveCabinImages_eq h, objectAt_dropCabinImages]

/-- The cruise has the images of the cabin afterwards. -/
lemma cruise_moveCabinImages : get? "cruiseInfo" (moveCabinImages trip).1 =
    some (.object (addCabinImages items (objectAt "cruiseInfo" trip))) := by
  rw [moveCabinImages_eq h, get?_dropCabinImages (by decide), get?_put_self]

/-- What stands apart from both places is found in the same objects as before. -/
lemma at?_moveCabinImages (hs : IsApart path separatePlace) (hc : IsApart path cabinPlace) :
    (Value.object (moveCabinImages trip).1).at? path = (Value.object trip).at? path := by
  -- Only paths through one of the two objects need care; each is followed to the changed field.
  match path with
  | [] => exact absurd List.nil_prefix hs.1
  | key :: rest =>
    by_cases hkey : key ∈ (["cruiseInfo", "images"] : List Text)
    · rcases List.mem_pair.mp hkey with rfl | rfl
      · match rest with
        | [] => exact absurd (by decide) hc.1
        | key :: rest =>
          rw [at?_cons_cons, at?_cons_cons, objectAt_of_get? (cruise_moveCabinImages h),
            addCabinImages]
          by_cases hcabin : key = "cabin"
          · subst hcabin
            match rest with
            | [] => exact absurd (by decide) hc.1
            | key :: rest =>
              have himages : key ≠ "images" := by
                rintro rfl
                exact hc.2 ⟨rest, rfl⟩
              rw [at?_cons_cons, at?_cons_cons, objectAt_of_get? get?_put_self, at?_object_cons,
                at?_object_cons, get?_put_of_ne (Ne.symm himages)]
          · rw [at?_object_cons, at?_object_cons, get?_put_of_ne (Ne.symm hcabin)]
      · match rest with
        | [] => exact absurd (by decide) hs.1
        | key :: rest =>
          have hcabin : "cabin" ≠ key := by
            rintro rfl
            exact hs.2 ⟨rest, rfl⟩
          rw [at?_cons_cons, at?_cons_cons, images_moveCabinImages h, at?_object_cons,
            at?_object_cons, get?_erase, if_neg hcabin]
    · rw [at?_object_cons, at?_object_cons, get?_moveCabinImages hkey]

/-- The cabin has its own images and the moved ones. -/
lemma at?_cabinPlace : (Value.object (moveCabinImages trip).1).at? cabinPlace =
    some (.list (mergeImages (cabinImages trip) items)) := by
  rw [cabinPlace, at?_cons_cons, at?_cons_cons, at?_object_singleton,
    objectAt_of_get? (cruise_moveCabinImages h), addCabinImages, objectAt_of_get? get?_put_self,
    get?_put_self, cabinImages]

lemma cabinImages_moveCabinImages :
    cabinImages (moveCabinImages trip).1 = mergeImages (cabinImages trip) items := by
  rw [cabinImages, objectAt_of_get? (cruise_moveCabinImages h), addCabinImages,
    objectAt_of_get? get?_put_self, listAt, get?_put_self, cabinImages]

lemma cabinImagesMoved : CabinImagesMoved items trip (moveCabinImages trip).1 where
  rest _ := at?_moveCabinImages h
  separate := by
    rw [separatePlace, at?_cons_cons, images_moveCabinImages h, at?_object_cons, get?_erase]
    rfl
  images := by
    rw [at?_object_singleton, moveCabinImages_eq h, get?_images_dropCabinImages, eq_nil_iff_get?]
    simp only [at?_cons_cons, at?_object_singleton, get?_erase]
    exact forall_congr' fun key => by simp [eq_comm]
  cabin := at?_cabinPlace h
  addresses _ hm _ ha := by
    rw [cabinImages_moveCabinImages h]
    exact exists_mem_mergeImages hm ha

end Moved

/-- Without images of the cabin in the old place nothing changes and nothing is reported, and
afterwards there are none. Where there are some, they are moved and what stands apart from both
places stays. -/
theorem moveCabinImages_moves (trip : Fields) :
    (HasNoCabinImages trip → moveCabinImages trip = (trip, [])) ∧
    (∀ items, get? "cabin" (objectAt "images" trip) = some (.list items) →
      CabinImagesMoved items trip (moveCabinImages trip).1 ∧
        (moveCabinImages trip).2 = [.cabinImagesMoved]) ∧
    moveCabinImages (moveCabinImages trip).1 = ((moveCabinImages trip).1, []) := by
  refine ⟨HasNoCabinImages.moveCabinImages, fun items h => ⟨cabinImagesMoved h, ?_⟩, ?_⟩
  · rw [moveCabinImages_eq h]
  · exact (hasNoCabinImages_moveCabinImages trip).moveCabinImages

/-- A trip with images of a cabin beside those of the ship. -/
def galleryTrip : Fields :=
  [("images", .object [("cabin", .list [.text "a.jpg", .text "b.jpg"]), ("ship", .text "c.jpg")]),
   ("cruiseInfo", .object [("name", .text "MS Nord"),
     ("cabin", .object [("images", .list [.text "b.jpg"])])])]

theorem moveCabinImages_moves_gallery :
    moveCabinImages [] = ([], []) ∧
      CabinImagesMoved [.text "a.jpg", .text "b.jpg"] galleryTrip (moveCabinImages galleryTrip).1 ∧
      cabinImages (moveCabinImages galleryTrip).1 = [.text "b.jpg", .text "a.jpg"] ∧
      get? "images" (moveCabinImages galleryTrip).1 = some (.object [("ship", .text "c.jpg")]) := by
  have hnone := (moveCabinImages_moves []).1 (by rintro _ ⟨⟩)
  have hmoved := (moveCabinImages_moves galleryTrip).2.1 _ rfl
  exact ⟨hnone, hmoved.1, rfl, rfl⟩

/-- A trip on a ship that is known by its name only. -/
def namedShipTrip : Fields :=
  [("images", .object [("cabin", .list [.text "a.jpg"])]), ("cruiseInfo", .text "MS Nord")]

/-- The name of the ship makes way for the images. -/
theorem moveCabinImages_drops_name :
    get? "cruiseInfo" namedShipTrip = some (.text "MS Nord") ∧
      get? "cruiseInfo" (moveCabinImages namedShipTrip).1 =
        some (.object [("cabin", .object [("images", .list [.text "a.jpg"])])]) ∧
      get? "cruiseInfo" (moveCabinImages namedShipTrip).1 ≠ get? "cruiseInfo" namedShipTrip := by
  refine ⟨rfl, rfl, ?_⟩
  rintro ⟨⟩

end TripProposal.Trip
