import TripProposal.Proofs.Value.Fields

/-!
# Values inside of documents

A traversal names values inside of a document: it lists them, and it changes each of them where
it stands. What it does not list it does not change.
-/

namespace TripProposal

/-- A way to the values inside of a document. -/
structure Traversal (α : Type) where
  values : α → List Value
  map : (Value → Value) → α → α
  values_map : ∀ f a, values (map f a) = (values a).map f
  /-- A document changes only by its values. -/
  map_eq_self : ∀ f a, (∀ v ∈ values a, f v = v) → map f a = a

namespace Traversal

variable {α : Type}

/-! ### Single places -/

/-- The value itself. -/
def here : Traversal Value where
  values v := [v]
  map f v := f v
  values_map _ _ := rfl
  map_eq_self f v h := h v (by simp)

/-- Into the value under a key, if there is one. -/
def field (key : Text) (t : Traversal Value) : Traversal Fields where
  values fields :=
    match Fields.get? key fields with
    | some v => t.values v
    | none => []
  map f fields :=
    match Fields.get? key fields with
    | some v => Fields.put key (t.map f v) fields
    | none => fields
  values_map f fields := by
    cases h : Fields.get? key fields with
    | none => simp [h]
    | some v => simp [t.values_map]
  map_eq_self f fields h := by
    cases hv : Fields.get? key fields with
    | none => simp
    | some v =>
      rw [hv] at h
      simp [t.map_eq_self f v h, Fields.put_of_get? hv]

section

variable {key : Text} {t : Traversal Value} {fields : Fields} {v : Value}

lemma values_field_of_some (h : Fields.get? key fields = some v) :
    (field key t).values fields = t.values v := by
  simp only [field, h]

lemma values_field_of_none (h : Fields.get? key fields = none) :
    (field key t).values fields = [] := by
  simp only [field, h]

lemma map_field_of_some (f : Value → Value) (h : Fields.get? key fields = some v) :
    (field key t).map f fields = Fields.put key (t.map f v) fields := by
  simp only [field, h]

lemma map_field_of_none (f : Value → Value) (h : Fields.get? key fields = none) :
    (field key t).map f fields = fields := by
  simp only [field, h]

end

/-- Into the fields of an object; other values have nothing inside. -/
def object (t : Traversal Fields) : Traversal Value where
  values
    | .object fields => t.values fields
    | _ => []
  map f
    | .object fields => .object (t.map f fields)
    | v => v
  values_map f v := by
    cases v with
    | object fields => exact t.values_map f fields
    | _ => rfl
  map_eq_self f v h := by
    cases v with
    | object fields => exact congrArg Value.object (t.map_eq_self f fields h)
    | _ => rfl

/-- Into the value of an entry under another key. -/
def entryExcept (key : Text) (t : Traversal Value) : Traversal (Text × Value) where
  values entry := if entry.1 = key then [] else t.values entry.2
  map f entry := if entry.1 = key then entry else (entry.1, t.map f entry.2)
  values_map f entry := by
    by_cases h : entry.1 = key <;> simp [h, t.values_map]
  map_eq_self f entry h := by
    by_cases hk : entry.1 = key
    · rw [if_pos hk]
    · rw [if_neg hk] at h ⊢
      rw [t.map_eq_self f entry.2 h]

/-! ### Lists -/

/-- Into each item. -/
def each (t : Traversal α) : Traversal (List α) where
  values items := items.flatMap t.values
  map f items := items.map (t.map f)
  values_map f items := by
    induction items with
    | nil => rfl
    | cons a items ih => simp [ih, t.values_map]
  map_eq_self f items h := by
    induction items with
    | nil => rfl
    | cons a items ih =>
      simp only [List.flatMap_cons, List.mem_append] at h
      rw [List.map_cons, t.map_eq_self f a fun v hv => h v (.inl hv), ih fun v hv => h v (.inr hv)]

/-- Into each item of a list; other values have nothing inside. -/
def list (t : Traversal Value) : Traversal Value where
  values
    | .list items => t.each.values items
    | _ => []
  map f
    | .list items => .list (t.each.map f items)
    | v => v
  values_map f v := by
    cases v with
    | list items => exact t.each.values_map f items
    | _ => rfl
  map_eq_self f v h := by
    cases v with
    | list items => exact congrArg Value.list (t.each.map_eq_self f items h)
    | _ => rfl

/-! ### Two places -/

/-- Two traversals whose values stand in different places. -/
structure Independent (t u : Traversal α) : Prop where
  left : ∀ f a, t.values (u.map f a) = t.values a
  right : ∀ f a, u.values (t.map f a) = u.values a

/-- To the values of one traversal and to those of another one. -/
def both (t u : Traversal α) (h : Independent t u) : Traversal α where
  values a := t.values a ++ u.values a
  map f a := u.map f (t.map f a)
  values_map f a := by
    rw [h.left, u.values_map, h.right, t.values_map, List.map_append]
  map_eq_self f a hf := by
    simp only [List.mem_append] at hf
    rw [t.map_eq_self f a fun v hv => hf v (.inl hv), u.map_eq_self f a fun v hv => hf v (.inr hv)]

lemma values_field_congr {key : Text} {t : Traversal Value} {fields fields' : Fields}
    (h : Fields.get? key fields = Fields.get? key fields') :
    (field key t).values fields = (field key t).values fields' := by
  simp only [field, h]

/-- Changing the values in one field leaves the others. -/
lemma get?_map_field_of_ne {key other : Text} (hne : key ≠ other) (t : Traversal Value)
    (f : Value → Value) (fields : Fields) :
    Fields.get? other ((field key t).map f fields) = Fields.get? other fields := by
  simp only [field]
  split
  · exact Fields.get?_put_of_ne hne
  · rfl

/-- Values under different keys stand in different places. -/
lemma independent_field {key other : Text} (hne : key ≠ other) (t u : Traversal Value) :
    Independent (field key t) (field other u) where
  left f fields := values_field_congr (get?_map_field_of_ne hne.symm u f fields)
  right f fields := values_field_congr (get?_map_field_of_ne hne t f fields)

/-- A place that differs from two others differs from both. -/
lemma Independent.both {t u w : Traversal α} {h : Independent u w} (hu : Independent t u)
    (hw : Independent t w) : Independent t (Traversal.both u w h) where
  left f a := by
    change t.values (w.map f (u.map f a)) = t.values a
    rw [hw.left, hu.left]
  right f a := by
    change u.values (t.map f a) ++ w.values (t.map f a) = u.values a ++ w.values a
    rw [hu.right, hw.right]

/-! ### Membership -/

section

variable {key : Text} {t : Traversal Value} {v u : Value}

/-- The values below a field are those of its value. -/
lemma mem_values_field {fields : Fields} :
    v ∈ (field key t).values fields ↔ ∃ u, Fields.get? key fields = some u ∧ v ∈ t.values u := by
  cases h : Fields.get? key fields with
  | none => simp [values_field_of_none h]
  | some u => simp [values_field_of_some h]

lemma mem_values_object {t : Traversal Fields} :
    v ∈ (object t).values u ↔ ∃ fields, u = .object fields ∧ v ∈ t.values fields := by
  cases u <;> simp [object]

/-- The values in a list are those of its elements. -/
lemma mem_values_each {t : Traversal α} {items : List α} :
    v ∈ (each t).values items ↔ ∃ a ∈ items, v ∈ t.values a :=
  List.mem_flatMap

lemma mem_values_list :
    v ∈ (list t).values u ↔ ∃ items, u = .list items ∧ ∃ item ∈ items, v ∈ t.values item := by
  cases u <;> simp [list, mem_values_each]

/-- The values of an entry count unless it stands under the key. -/
lemma mem_values_entryExcept {entry : Text × Value} :
    v ∈ (entryExcept key t).values entry ↔ entry.1 ≠ key ∧ v ∈ t.values entry.2 := by
  by_cases h : entry.1 = key <;> simp [entryExcept, h]

/-- The values of two walks are those of one or the other. -/
lemma mem_values_both {t u : Traversal α} {h : Independent t u} {a : α} :
    v ∈ (both t u h).values a ↔ v ∈ t.values a ∨ v ∈ u.values a :=
  List.mem_append

end

end Traversal

end TripProposal
