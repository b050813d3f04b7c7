import Mathlib.Tactic.Common
import TripProposal.Template.Render

/-!
# What paths find

Whatever a path finds in a value is a part of it, or the length of a list or a text in it. So what
holds for all parts of a document holds for whatever a template looks up there.
-/

namespace TripProposal

lemma Fields.mem_of_get? {key : Text} {fields : Fields} {v : Value}
    (h : Fields.get? key fields = some v) : (key, v) ∈ fields := by
  induction fields with
  | nil => cases h
  | cons field fields ih =>
    obtain ⟨k, u⟩ := field
    rw [Fields.get?] at h
    split at h
    · next hk =>
      rw [← hk, ← Option.some.inj h]
      exact List.mem_cons_self
    · exact List.mem_cons_of_mem _ (ih h)

/-! ### Parts -/

namespace Value

/-- The parts of a value: the value itself and the parts of its items and fields. -/
inductive Holds : Value → Value → Prop
  | self (v : Value) : Holds v v
  | item {items : List Value} {v w : Value} (hv : v ∈ items) (h : Holds v w) :
    Holds (.list items) w
  | field {fields : Fields} {key : Text} {v w : Value} (hv : (key, v) ∈ fields) (h : Holds v w) :
    Holds (.object fields) w

/-- What a path can find in a value: a part of it, or the length of a list or a text in it. -/
inductive Reaches (v : Value) : Value → Prop
  | part {w : Value} (h : v.Holds w) : Reaches v w
  | listLength {items : List Value} (h : v.Holds (.list items)) : Reaches v (.int items.length)
  | textLength {s : Text} (h : v.Holds (.text s)) : Reaches v (.int s.toList.length)

variable {u v w : Value}

/-- Parts of parts are parts. -/
lemma Holds.trans (h : u.Holds v) (h' : v.Holds w) : u.Holds w := by
  induction h with
  | self v => exact h'
  | item hv _ ih => exact .item hv (ih h')
  | field hv _ ih => exact .field hv (ih h')

/-- A value has bytes when all keys and texts in it do. -/
structure IsEncodable (v : Value) : Prop where
  texts : ∀ s, v.Holds (.text s) → s.isEncodable = true
  keys : ∀ fields, v.Holds (.object fields) → ∀ field ∈ fields, field.1.isEncodable = true

lemma IsEncodable.of_holds (h : u.IsEncodable) (hv : u.Holds v) : v.IsEncodable where
  texts s hs := h.texts s (hv.trans hs)
  keys fields hf := h.keys fields (hv.trans hf)

@[simp] lemma isEncodable_null : IsEncodable .null := ⟨nofun, nofun⟩

@[simp] lemma isEncodable_bool (b : Bool) : IsEncodable (.bool b) := ⟨nofun, nofun⟩

@[simp] lemma isEncodable_int (n : Int) : IsEncodable (.int n) := ⟨nofun, nofun⟩

@[simp] lemma isEncodable_float (x : Number.Binary64) : IsEncodable (.float x) := ⟨nofun, nofun⟩

@[simp] lemma isEncodable_text {s : Text} : IsEncodable (.text s) ↔ s.isEncodable = true := by
  constructor
  · exact fun h => h.texts s (.self _)
  · intro h
    refine ⟨?_, nofun⟩
    rintro _ ⟨⟩
    exact h

/-- A list has bytes when its items do. -/
@[simp] lemma isEncodable_list {items : List Value} :
    IsEncodable (.list items) ↔ ∀ v ∈ items, v.IsEncodable := by
  constructor
  · exact fun h v hv => h.of_holds (.item hv (.self v))
  · intro h
    constructor
    · intro s htext
      cases htext with
      | item hv hs => exact (h _ hv).texts s hs
    · intro fields hfields
      cases hfields with
      | item hv hf => exact (h _ hv).keys fields hf

/-- An object has bytes when its keys and values do. -/
@[simp] lemma isEncodable_object {fields : Fields} : IsEncodable (.object fields) ↔
    ∀ field ∈ fields, field.1.isEncodable = true ∧ field.2.IsEncodable := by
  constructor
  · exact fun h field hfield =>
      ⟨h.keys fields (.self _) field hfield, h.of_holds (.field hfield (.self _))⟩
  · intro h
    constructor
    · intro s htext
      cases htext with
      | field hv hs => exact (h _ hv).2.texts s hs
    · intro inner hinner
      cases hinner with
      | self => exact fun field hfield => (h field hfield).1
      | field hv hf => exact (h _ hv).2.keys inner hf

lemma Reaches.refl (v : Value) : v.Reaches v := .part (.self v)

/-- A whole number has no parts. -/
lemma eq_int_of_reaches {n : Int} (h : (Value.int n).Reaches w) : w = .int n := by
  cases h with
  | part h => cases h; rfl
  | listLength h => cases h
  | textLength h => cases h

lemma Reaches.trans (h : u.Reaches v) (h' : v.Reaches w) : u.Reaches w := by
  cases h with
  | part h =>
    cases h' with
    | part h' => exact .part (h.trans h')
    | listLength h' => exact .listLength (h.trans h')
    | textLength h' => exact .textLength (h.trans h')
  | listLength h =>
    rw [eq_int_of_reaches h']
    exact .listLength h
  | textLength h =>
    rw [eq_int_of_reaches h']
    exact .textLength h

lemma reaches_of_getElem? {items : List Value} {n : Nat} (h : items[n]? = some w) :
    (Value.list items).Reaches w :=
  .part (.item (List.mem_of_getElem? h) (.self w))

lemma reaches_of_get? {fields : Fields} {key : Text} (h : Fields.get? key fields = some w) :
    (Value.object fields).Reaches w :=
  .part (.field (Fields.mem_of_get? h) (.self w))

end Value

/-! ### Paths -/

namespace Template

variable {u v w : Value} {scope : Scope}

lemma reaches_item {items : List Value} {found : Except Fault (Option Nat)}
    (h : (found.map fun index => index.bind fun n => items[n]?) = .ok (some w)) :
    (Value.list items).Reaches w := by
  cases found with
  | error fault => cases h
  | ok index =>
    cases index with
    | none => cases h
    | some n => exact Value.reaches_of_getElem? (Except.ok.inj h)

/-- A step leads to a part, or to a length. -/
lemma reaches_step {segment : List CodePoint} (h : step v segment = .ok (some w)) :
    v.Reaches w := by
  unfold step at h
  split at h
  · exact Value.reaches_of_get? (Except.ok.inj h)
  · split at h
    · cases h
      exact .listLength (.self _)
    · exact reaches_item h
  · split at h
    · cases h
      exact .textLength (.self _)
    · cases h
  · cases h

/-- So do several steps. -/
lemma reaches_walk {path : List (List CodePoint)} (h : walk v path = .ok (some w)) :
    v.Reaches w := by
  induction path generalizing v with
  | nil =>
    cases h
    exact .refl _
  | cons segment path ih =>
    rw [walk] at h
    split at h
    · next hs => exact (reaches_step hs).trans (ih h)
    · cases h
    · cases h

/-- So does a path. -/
lemma reaches_valueAt {path : List CodePoint} (h : valueAt v path = .ok (some w)) :
    v.Reaches w := by
  unfold valueAt at h
  split at h
  · cases h
    exact .refl v
  · exact reaches_walk h

/-- A lookup leads to a part of the collection. -/
lemma reaches_lookup {collection key : Option Value} (h : lookup collection key = .ok (some w)) :
    ∃ v ∈ collection, v.Reaches w := by
  unfold lookup at h
  split at h
  · cases h
  · cases h
  · exact ⟨_, rfl, Value.reaches_of_get? (Except.ok.inj h)⟩
  · exact ⟨_, rfl, reaches_item h⟩
  · cases h

/-- The entries of a collection are parts of it. -/
lemma holds_of_mem_entriesOf {entry : Entry} (h : entry ∈ entriesOf (some v)) :
    v.Holds entry.value := by
  unfold entriesOf at h
  split at h
  · next items heq =>
    obtain rfl := Option.some.inj heq
    obtain ⟨n, hn, rfl⟩ := List.mem_mapIdx.mp h
    exact .item (List.getElem_mem hn) (.self _)
  · next fields heq =>
    obtain rfl := Option.some.inj heq
    obtain ⟨n, hn, rfl⟩ := List.mem_mapIdx.mp h
    have hm : (fields[n].1, fields[n].2) ∈ fields := List.getElem_mem hn
    exact .field hm (.self _)
  · cases h

/-- The key of an entry is its position in a list, or the key of a field. -/
lemma key_of_mem_entriesOf {entry : Entry} (h : entry ∈ entriesOf (some v)) :
    (∃ n, entry.key = Text.decimal n) ∨
      ∃ fields key w, v = .object fields ∧ (key, w) ∈ fields ∧ entry.key = key.toList := by
  unfold entriesOf at h
  split at h
  · obtain ⟨n, hn, rfl⟩ := List.mem_mapIdx.mp h
    exact .inl ⟨n, rfl⟩
  · next fields heq =>
    obtain rfl := Option.some.inj heq
    obtain ⟨n, hn, rfl⟩ := List.mem_mapIdx.mp h
    exact .inr ⟨fields, fields[n].1, fields[n].2, rfl, List.getElem_mem hn, rfl⟩
  · cases h

/-! ### Scopes -/

namespace Scope

/-- What a path can find in a scope: in its context or in the one around it. -/
def Reaches (scope : Scope) (w : Value) : Prop :=
  scope.context.Reaches w ∨ ∃ parent ∈ scope.parent?, parent.Reaches w

lemma reaches_root {document : Value} : (Scope.root document).Reaches w ↔ document.Reaches w := by
  simp [Reaches, root]

lemma Reaches.trans (h : scope.Reaches v) (h' : v.Reaches w) : scope.Reaches w := by
  rcases h with h | ⟨parent, hp, h⟩
  · exact .inl (h.trans h')
  · exact .inr ⟨parent, hp, h.trans h'⟩

/-- A path leads to what the scope reaches. -/
lemma reaches_resolve {path : List CodePoint} (h : scope.resolve path = .ok (some w)) :
    scope.Reaches w := by
  unfold resolve at h
  split at h
  · split at h
    · next parent hp => exact .inr ⟨parent, hp, reaches_valueAt h⟩
    · cases h
  · exact .inl (reaches_valueAt h)

/-- So does the expression of a block. -/
lemma reaches_target {expression : List CodePoint} (h : scope.target expression = .ok (some w)) :
    scope.Reaches w := by
  unfold target at h
  split at h
  · exact reaches_resolve h
  · next object key _ =>
    cases hcollection : scope.resolve object with
    | error fault => simp [hcollection, Except.bind] at h
    | ok collection =>
      cases hkey : scope.resolve key with
      | error fault => simp [hcollection, hkey, Except.bind] at h
      | ok key =>
        simp only [hcollection, hkey, Except.bind] at h
        obtain ⟨v, rfl, hv⟩ := reaches_lookup h
        exact (reaches_resolve hcollection).trans hv

/-- Inside a value, a path finds what it finds in the value and in the context around it. -/
lemma reaches_enter (h : (scope.enter v).Reaches w) : v.Reaches w ∨ scope.Reaches w := by
  rcases h with h | ⟨parent, hp, h⟩
  · exact .inl h
  · obtain rfl := Option.some.inj hp
    exact .inr (.inl h)

/-- Whether a scope finds nothing but what a document reaches. -/
def Within (data : Value) (scope : Scope) : Prop :=
  ∀ v, scope.Reaches v → data.Reaches v

variable {data : Value}

lemma Within.root : (Scope.root data).Within data := fun _ => reaches_root.mp

/-- Inside a part of the document there is nothing else. -/
lemma Within.enter (h : scope.Within data) (hv : data.Reaches v) :
    (scope.enter v).Within data := by
  intro w hw
  rcases reaches_enter hw with hw | hw
  · exact hv.trans hw
  · exact h w hw

end Scope

/-- Nor in a loop over it. -/
lemma within_entryScope {data : Value} {entry : Entry} (hscope : scope.Within data)
    (hv : data.Reaches v) (he : entry ∈ entriesOf (some v)) : (entry.scope scope).Within data := by
  unfold Entry.scope
  split
  · exact hscope.enter (hv.trans (.part (holds_of_mem_entriesOf he)))
  · exact hscope

end Template

end TripProposal
