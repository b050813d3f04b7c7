import TripProposal.Proofs.Value.Fields

/-!
# Lists in fields

Most steps on a document change the list under one key, and in it the objects one by one. Such a
change leaves what stands under other keys, and it leaves a document that it would change into
itself.
-/

namespace TripProposal

/-- Change the fields of an object; other values stay. -/
def Value.changeFields (f : Fields → Fields) : Value → Value
  | .object fields => .object (f fields)
  | v => v

/-- An object is among the items of the list under a key. -/
def Fields.HasItem (key : Text) (item fields : Fields) : Prop :=
  ∃ items, get? key fields = some (.list items) ∧ .object item ∈ items

/-- Change the list under a key, if there is one. -/
def Fields.changeList (key : Text) (f : List Value → List Value) (fields : Fields) : Fields :=
  match get? key fields with
  | some (.list items) => put key (.list (f items)) fields
  | _ => fields

namespace Value

variable {f : Fields → Fields} {v : Value} {items : List Value} {fields : Fields}

lemma changeFields_eq_object :
    v.changeFields f = .object fields ↔ ∃ fields', v = .object fields' ∧ f fields' = fields := by
  cases v <;> simp [changeFields]

/-- The objects of a list whose objects are changed. -/
lemma mem_map_changeFields :
    .object fields ∈ items.map (changeFields f) ↔ ∃ fields', .object fields' ∈ items ∧
      f fields' = fields := by
  simp only [List.mem_map, changeFields_eq_object]
  constructor
  · rintro ⟨v, hv, fields', rfl, hf⟩
    exact ⟨fields', hv, hf⟩
  · rintro ⟨fields', hv, hf⟩
    exact ⟨_, hv, fields', rfl, hf⟩

lemma map_changeFields_eq_self (h : ∀ fields, .object fields ∈ items → f fields = fields) :
    items.map (changeFields f) = items := by
  have hsame : ∀ v ∈ items, changeFields f v = id v := by
    intro v hv
    cases v with
    | object fields => exact congrArg Value.object (h fields hv)
    | _ => rfl
  rw [List.map_congr_left hsame, List.map_id]

end Value

namespace Fields

variable {key other : Text} {f : List Value → List Value} {g : Fields → Fields}
  {fields fields' item : Fields} {items : List Value}

/-- The items of a field depend on the field only. -/
lemma hasItem_congr (h : get? key fields = get? key fields') :
    HasItem key item fields ↔ HasItem key item fields' := by
  rw [HasItem, HasItem, h]

lemma changeList_of_get? (h : get? key fields = some (.list items)) :
    changeList key f fields = put key (.list (f items)) fields := by
  rw [changeList, h]

lemma changeList_of_not_list (h : ∀ items, get? key fields ≠ some (.list items)) :
    changeList key f fields = fields := by
  unfold changeList
  split
  · next items hv => exact absurd hv (h items)
  · rfl

lemma changeList_eq_self (h : ∀ items, get? key fields = some (.list items) → f items = items) :
    changeList key f fields = fields := by
  unfold changeList
  split
  · next items hv => rw [h items hv, put_of_get? hv]
  · rfl

@[simp] lemma get?_changeList_of_ne (h : key ≠ other) :
    get? other (changeList key f fields) = get? other fields := by
  unfold changeList
  split
  · exact get?_put_of_ne h
  · rfl

lemma get?_changeList_of_not_list
    (h : key = other → ∀ items, get? other fields ≠ some (.list items)) :
    get? other (changeList key f fields) = get? other fields := by
  by_cases hkey : key = other
  · subst hkey
    rw [changeList_of_not_list (h rfl)]
  · exact get?_changeList_of_ne hkey

lemma map_fst_changeList (key : Text) (f : List Value → List Value) (fields : Fields) :
    (changeList key f fields).map Prod.fst = fields.map Prod.fst := by
  unfold changeList
  split
  · next items hv => exact map_fst_put_of_get? _ hv
  · rfl

/-- Another field can be stored before or after a list is changed. -/
lemma changeList_put (h : key ≠ other) (v : Value) :
    changeList key f (put other v fields) = put other v (changeList key f fields) := by
  by_cases hv : ∃ items, get? key fields = some (.list items)
  · obtain ⟨items, hv⟩ := hv
    have hput : get? key (put other v fields) = some (.list items) := by
      rw [get?_put_of_ne (Ne.symm h), hv]
    rw [changeList_of_get? hput, changeList_of_get? hv, put_comm (by rw [hv]; rfl) h]
  · have hno : ∀ items, get? key fields ≠ some (.list items) := fun items hi => hv ⟨items, hi⟩
    have hput : ∀ items, get? key (put other v fields) ≠ some (.list items) := by
      intro items
      rw [get?_put_of_ne (Ne.symm h)]
      exact hno items
    rw [changeList_of_not_list hput, changeList_of_not_list hno]

/-- Lists in different fields can be changed in any order. -/
lemma changeList_comm (h : key ≠ other) (f f' : List Value → List Value) (fields : Fields) :
    changeList key f (changeList other f' fields) =
      changeList other f' (changeList key f fields) := by
  by_cases hv : ∃ items, get? other fields = some (.list items)
  · obtain ⟨items, hv⟩ := hv
    have hchanged : get? other (changeList key f fields) = some (.list items) := by
      rw [get?_changeList_of_ne h, hv]
    rw [changeList_of_get? hv, changeList_of_get? hchanged, changeList_put h]
  · have hno : ∀ items, get? other fields ≠ some (.list items) := fun items hi => hv ⟨items, hi⟩
    have hchanged : ∀ items, get? other (changeList key f fields) ≠ some (.list items) := by
      intro items
      rw [get?_changeList_of_ne h]
      exact hno items
    rw [changeList_of_not_list hno, changeList_of_not_list hchanged]

/-- Storing a value overrides a change of what was there. -/
lemma put_changeList (v : Value) : put key v (changeList key f fields) = put key v fields := by
  unfold changeList
  split
  · rw [put_put]
  · rfl

/-- Changing objects into themselves changes nothing. -/
lemma changeList_map_eq_self (h : ∀ item, HasItem key item fields → g item = item) :
    changeList key (List.map (Value.changeFields g)) fields = fields :=
  changeList_eq_self fun items hv =>
    Value.map_changeFields_eq_self fun item hmem => h item ⟨items, hv, hmem⟩

/-- The list under a key whose list is changed. -/
lemma get?_changeList_eq_list : get? key (changeList key f fields) = some (.list items) ↔
    ∃ items', get? key fields = some (.list items') ∧ f items' = items := by
  unfold changeList
  split
  · next items' hv => simp [hv]
  · next hv =>
    constructor
    · intro h
      exact absurd h (hv items)
    · rintro ⟨items', h, -⟩
      exact absurd h (hv items')

lemma hasItem_changeList_of_ne (h : key ≠ other) :
    HasItem other item (changeList key f fields) ↔ HasItem other item fields :=
  hasItem_congr (get?_changeList_of_ne h)

/-- The items afterwards are those that the change gives. -/
lemma hasItem_changeList : HasItem key item (changeList key f fields) ↔
    ∃ items, get? key fields = some (.list items) ∧ .object item ∈ f items := by
  simp only [HasItem, get?_changeList_eq_list]
  constructor
  · rintro ⟨_, ⟨items, hv, rfl⟩, hmem⟩
    exact ⟨items, hv, hmem⟩
  · rintro ⟨items, hv, hmem⟩
    exact ⟨_, ⟨items, hv, rfl⟩, hmem⟩

/-- The objects of a list whose objects are changed. -/
lemma hasItem_changeList_map :
    HasItem key item (changeList key (List.map (Value.changeFields g)) fields) ↔
      ∃ item', HasItem key item' fields ∧ g item' = item := by
  simp only [hasItem_changeList, Value.mem_map_changeFields]
  constructor
  · rintro ⟨items, hv, item', hmem, hg⟩
    exact ⟨item', ⟨items, hv, hmem⟩, hg⟩
  · rintro ⟨item', ⟨items, hv, hmem⟩, hg⟩
    exact ⟨items, hv, item', hmem, hg⟩

/-- The objects of a list of which some are kept. -/
lemma hasItem_changeList_filter {test : Value → Bool} :
    HasItem key item (changeList key (List.filter test) fields) ↔
      HasItem key item fields ∧ test (.object item) = true := by
  simp only [hasItem_changeList, List.mem_filter]
  constructor
  · rintro ⟨items, hv, hmem, ht⟩
    exact ⟨⟨items, hv, hmem⟩, ht⟩
  · rintro ⟨⟨items, hv, hmem⟩, ht⟩
    exact ⟨items, hv, hmem, ht⟩

end Fields

end TripProposal
