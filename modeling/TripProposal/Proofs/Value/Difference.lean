import Mathlib.Data.List.Forall2
import TripProposal.Proofs.Value.Lists

/-!
# Differences between documents

Documents that differ in known places only. Two objects may differ under named keys, and two lists
in their objects, one by one.
-/

namespace TripProposal

/-- Two objects have the same values except under the named keys. -/
def Fields.SameExcept (keys : List Text) (fields fields' : Fields) : Prop :=
  ∀ key, key ∉ keys → get? key fields' = get? key fields

namespace Value

/-- Two values are the same, or objects in a relation. -/
inductive ObjectsRelated (R : Fields → Fields → Prop) : Value → Value → Prop
  | same (v : Value) : ObjectsRelated R v v
  | object {fields fields' : Fields} (h : R fields fields') :
    ObjectsRelated R (.object fields) (.object fields')

/-- Two values, if there are any, are the same, or lists whose objects are in a relation one by
one. -/
inductive ItemsRelated (R : Fields → Fields → Prop) : Option Value → Option Value → Prop
  | same (v : Option Value) : ItemsRelated R v v
  | list {items items' : List Value} (h : List.Forall₂ (ObjectsRelated R) items items') :
    ItemsRelated R (some (.list items)) (some (.list items'))

end Value

/-! ### Objects -/

namespace Fields

variable {keys keys' : List Text} {key : Text} {v : Value}
  {fields fields' fields'' : Fields}

namespace SameExcept

lemma refl (keys : List Text) (fields : Fields) : SameExcept keys fields fields :=
  fun _ _ => rfl

/-- What is the same in two steps is the same in one. -/
lemma trans (h : SameExcept keys fields fields') (h' : SameExcept keys fields' fields'') :
    SameExcept keys fields fields'' := by
  intro key hkey
  rw [h' key hkey, h key hkey]

lemma mono (h : SameExcept keys fields fields') (hkeys : keys ⊆ keys') :
    SameExcept keys' fields fields' :=
  fun key hkey => h key fun hmem => hkey (hkeys hmem)

lemma put (hkey : key ∈ keys) (v : Value) (fields : Fields) :
    SameExcept keys fields (Fields.put key v fields) := by
  intro other hother
  refine get?_put_of_ne ?_
  rintro rfl
  exact hother hkey

/-- Another object is the same. -/
lemma objectAt (h : SameExcept keys fields fields') (key : Text) (hkey : key ∉ keys) :
    Fields.objectAt key fields' = Fields.objectAt key fields := by
  rw [Fields.objectAt, Fields.objectAt, h key hkey]

lemma listAt (h : SameExcept keys fields fields') (key : Text) (hkey : key ∉ keys) :
    Fields.listAt key fields' = Fields.listAt key fields := by
  rw [Fields.listAt, Fields.listAt, h key hkey]

lemma firstFilled? (h : SameExcept keys fields fields') (names : List Text)
    (hnames : ∀ key ∈ names, key ∉ keys) :
    Value.firstFilled? names fields' = Value.firstFilled? names fields := by
  induction names with
  | nil => rfl
  | cons name names ih =>
    rw [List.forall_mem_cons] at hnames
    have hrest := ih hnames.2
    unfold Value.firstFilled? at hrest ⊢
    rw [List.findSome?_cons, List.findSome?_cons, h name hnames.1, hrest]

end SameExcept

end Fields

/-! ### Lists -/

namespace Value

variable {R S : Fields → Fields → Prop} {u v w : Value} {o o' o'' : Option Value}

lemma ObjectsRelated.mono (h : ∀ fields fields', R fields fields' → S fields fields')
    (hv : ObjectsRelated R v w) : ObjectsRelated S v w := by
  cases hv with
  | same => exact .same _
  | object hR => exact .object (h _ _ hR)

/-- Related steps are related as one. -/
lemma ObjectsRelated.trans
    (h : ∀ fields fields' fields'', R fields fields' → R fields' fields'' → R fields fields'')
    (hu : ObjectsRelated R u v) (hv : ObjectsRelated R v w) : ObjectsRelated R u w := by
  cases hu with
  | same => exact hv
  | object hR =>
    cases hv with
    | same => exact .object hR
    | object hR' => exact .object (h _ _ _ hR hR')

lemma forall₂_trans {α : Type} {r : α → α → Prop} {as bs cs : List α}
    (h : ∀ {a b c}, r a b → r b c → r a c) (hab : List.Forall₂ r as bs)
    (hbc : List.Forall₂ r bs cs) : List.Forall₂ r as cs := by
  induction hab generalizing cs with
  | nil =>
    cases hbc
    exact .nil
  | cons ha _ ih =>
    cases hbc with
    | cons hb hrest => exact .cons (h ha hb) (ih hrest)

lemma ItemsRelated.mono (h : ∀ fields fields', R fields fields' → S fields fields')
    (ho : ItemsRelated R o o') : ItemsRelated S o o' := by
  cases ho with
  | same => exact .same _
  | list hitems => exact .list (hitems.imp fun _ _ => .mono h)

/-- The items of two steps are related one by one. -/
lemma ItemsRelated.trans
    (h : ∀ fields fields' fields'', R fields fields' → R fields' fields'' → R fields fields'')
    (ho : ItemsRelated R o o') (ho' : ItemsRelated R o' o'') : ItemsRelated R o o'' := by
  cases ho with
  | same => exact ho'
  | list hitems =>
    cases ho' with
    | same => exact .list hitems
    | list hitems' => exact .list (forall₂_trans (.trans h) hitems hitems')

/-- The objects of a list are related to what a function makes of them. -/
lemma objectsRelated_changeFields {f : Fields → Fields} (h : ∀ fields, R fields (f fields))
    (v : Value) : ObjectsRelated R v (v.changeFields f) := by
  cases v with
  | object fields => exact .object (h fields)
  | _ => exact .same _

/-- A list whose objects are changed is related to the list, also where the other fields of its owner
have been changed before. -/
lemma itemsRelated_changeList {f : Fields → Fields} (h : ∀ fields, R fields (f fields))
    {key : Text} {fields fields' : Fields}
    (hsame : Fields.get? key fields' = Fields.get? key fields) :
    ItemsRelated R (Fields.get? key fields)
      (Fields.get? key (Fields.changeList key (List.map (changeFields f)) fields')) := by
  rw [← hsame]
  by_cases hlist : ∃ items, Fields.get? key fields' = some (.list items)
  · obtain ⟨items, hv⟩ := hlist
    rw [Fields.changeList_of_get? hv, Fields.get?_put_self, hv]
    refine .list ?_
    rw [List.forall₂_map_right_iff, List.forall₂_same]
    exact fun v _ => objectsRelated_changeFields h v
  · rw [Fields.changeList_of_not_list fun items hv => hlist ⟨items, hv⟩]
    exact .same _

/-- The objects of related lists are related one by one. -/
lemma ItemsRelated.objectsOf (hR : ∀ fields, R fields fields) (h : ItemsRelated R o o') :
    List.Forall₂ R (Value.objectsOf o) (Value.objectsOf o') := by
  cases h with
  | same => exact List.forall₂_same.mpr fun fields _ => hR fields
  | list hitems =>
    induction hitems with
    | nil => exact .nil
    | @cons v _ _ _ hv _ ih =>
      cases hv with
      | same =>
        cases v with
        | object fields => exact .cons (hR fields) ih
        | _ => exact ih
      | object hfields => exact .cons hfields ih

end Value

end TripProposal
