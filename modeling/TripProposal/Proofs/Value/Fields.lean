import Mathlib.Tactic.Common
import TripProposal.Proofs.Text.Searching
import TripProposal.Value.Basic
import TripProposal.Value.Path

/-!
# Reading and storing fields

What is read from fields after something is stored in them. Storing changes what is found under
its own key and nothing else, so what is computed from other keys stays.
-/

namespace TripProposal

namespace Fields

variable {key other : Text} {v w : Value} {fields : Fields}

/-! ### Storing -/

/-- Only the stored field changes. -/
@[simp] lemma get?_put (key other : Text) (v : Value) (fields : Fields) :
    get? other (put key v fields) = if key = other then some v else get? other fields := by
  induction fields with
  | nil => rfl
  | cons field fields ih =>
    obtain ⟨k, u⟩ := field
    rw [put]
    by_cases hk : k = key
    · subst hk
      by_cases ho : k = other <;> simp [get?, ho]
    · rw [if_neg hk, get?, get?, ih]
      by_cases ho : k = other
      · subst ho
        simp [Ne.symm hk]
      · simp [ho]

lemma get?_put_self : get? key (put key v fields) = some v := by simp

lemma get?_put_of_ne (h : key ≠ other) : get? other (put key v fields) = get? other fields := by
  simp [h]

@[simp] lemma objectAt_put_of_ne (h : key ≠ other) :
    objectAt other (put key v fields) = objectAt other fields := by
  simp [objectAt, h]

lemma objectAt_of_get? {inner : Fields} (h : get? key fields = some (.object inner)) :
    objectAt key fields = inner := by
  simp [objectAt, h]

/-- Storing what is there already changes nothing. -/
lemma put_of_get? (h : get? key fields = some v) : put key v fields = fields := by
  induction fields with
  | nil => cases h
  | cons field fields ih =>
    obtain ⟨k, u⟩ := field
    rw [get?] at h
    rw [put]
    by_cases hk : k = key
    · rw [if_pos hk] at h ⊢
      rw [Option.some.inj h]
    · rw [if_neg hk] at h ⊢
      rw [ih h]

/-- Storing what is there already changes nothing, one by one. -/
lemma putAll_eq_self {updates : Fields}
    (h : ∀ entry ∈ updates, get? entry.1 fields = some entry.2) :
    putAll updates fields = fields := by
  induction updates with
  | nil => rfl
  | cons entry updates ih =>
    obtain ⟨k, u⟩ := entry
    rw [List.forall_mem_cons] at h
    have hrest := ih h.2
    have hput : put k u fields = fields := put_of_get? h.1
    rw [putAll, List.foldl_cons]
    dsimp only
    rw [hput]
    exact hrest

/-- The second value of two counts. -/
lemma put_put (key : Text) (v w : Value) (fields : Fields) :
    put key v (put key w fields) = put key v fields := by
  induction fields with
  | nil => simp [put]
  | cons field fields ih =>
    obtain ⟨k, u⟩ := field
    by_cases hk : k = key <;> simp [put, hk, ih]

/-- Storing in a place that is there commutes with storing elsewhere. -/
lemma put_comm (h : (get? key fields).isSome) (hne : key ≠ other) :
    put key v (put other w fields) = put other w (put key v fields) := by
  induction fields with
  | nil => cases h
  | cons field fields ih =>
    obtain ⟨k, u⟩ := field
    rw [get?] at h
    by_cases hk : k = key
    · subst hk
      simp [put, hne]
    · rw [if_neg hk] at h
      by_cases ho : k = other
      · subst ho
        simp [put, hk]
      · simp [put, hk, ho, ih h]

lemma erase_cons (key k : Text) (u : Value) (fields : Fields) :
    erase key ((k, u) :: fields) =
      if k = key then erase key fields else (k, u) :: erase key fields := by
  by_cases hk : k = key <;> simp [erase, hk]

/-- Only the erased field is gone. -/
lemma get?_erase (key other : Text) (fields : Fields) :
    get? other (erase key fields) = if key = other then none else get? other fields := by
  induction fields with
  | nil => simp [erase, get?]
  | cons field fields ih =>
    obtain ⟨k, u⟩ := field
    rw [erase_cons]
    by_cases hk : k = key
    · rw [if_pos hk, ih, hk, get?]
      split <;> rfl
    · rw [if_neg hk, get?, get?, ih]
      by_cases ho : k = other
      · rw [if_pos ho, if_pos ho, if_neg (fun h => hk (ho.trans h.symm))]
      · rw [if_neg ho, if_neg ho]

lemma erase_of_get?_none (h : get? key fields = none) : erase key fields = fields := by
  induction fields with
  | nil => rfl
  | cons field fields ih =>
    obtain ⟨k, u⟩ := field
    rw [get?] at h
    by_cases hk : k = key
    · rw [if_pos hk] at h
      cases h
    · rw [if_neg hk] at h
      rw [erase_cons, if_neg hk, ih h]

/-! ### Keys in order -/

/-- Storing keeps the order of the keys; a new key goes last. -/
lemma map_fst_put (key : Text) (v : Value) (fields : Fields) :
    (put key v fields).map Prod.fst = if key ∈ fields.map Prod.fst then fields.map Prod.fst
      else fields.map Prod.fst ++ [key] := by
  induction fields with
  | nil => rfl
  | cons field fields ih =>
    obtain ⟨k, u⟩ := field
    by_cases hk : k = key
    · simp [put, hk]
    · simp only [put, if_neg hk, List.map_cons, ih, List.mem_cons, Ne.symm hk, false_or]
      split <;> rfl

lemma mem_map_fst_of_get? (h : get? key fields = some v) : key ∈ fields.map Prod.fst := by
  induction fields with
  | nil => cases h
  | cons field fields ih =>
    obtain ⟨k, u⟩ := field
    rw [get?] at h
    by_cases hk : k = key
    · simp [hk]
    · rw [if_neg hk] at h
      exact List.mem_cons_of_mem k (ih h)

/-- A field that is there keeps its place. -/
lemma map_fst_put_of_get? (w : Value) (h : get? key fields = some v) :
    (put key w fields).map Prod.fst = fields.map Prod.fst := by
  rw [map_fst_put, if_pos (mem_map_fst_of_get? h)]

/-- The other fields keep their places. -/
lemma map_fst_erase (key : Text) (fields : Fields) :
    (erase key fields).map Prod.fst = (fields.map Prod.fst).filter (· ≠ key) := by
  rw [erase, List.filter_map]
  rfl

/-! ### Distinct keys -/

/-- A new key goes last. -/
lemma put_of_notMem (h : key ∉ fields.map Prod.fst) : put key v fields = fields ++ [(key, v)] := by
  induction fields with
  | nil => rfl
  | cons field fields ih =>
    obtain ⟨k, u⟩ := field
    rw [List.map_cons, List.mem_cons, not_or] at h
    rw [put, if_neg (Ne.symm h.1), ih h.2, List.cons_append]

/-- Storing entries with distinct keys keeps the order of the keys; the new ones go last. -/
lemma map_fst_putAll {updates : Fields} (h : (updates.map Prod.fst).Nodup) (fields : Fields) :
    (putAll updates fields).map Prod.fst =
      fields.map Prod.fst ++ (updates.map Prod.fst).filter (· ∉ fields.map Prod.fst) := by
  induction updates generalizing fields with
  | nil => exact (List.append_nil _).symm
  | cons entry updates ih =>
    obtain ⟨k, u⟩ := entry
    rw [List.map_cons, List.nodup_cons] at h
    have hput : (putAll ((k, u) :: updates) fields).map Prod.fst = (put k u fields).map Prod.fst ++
        (updates.map Prod.fst).filter (· ∉ (put k u fields).map Prod.fst) := ih h.2 (put k u fields)
    rw [hput, map_fst_put, List.map_cons]
    by_cases hk : k ∈ fields.map Prod.fst
    · rw [if_pos hk, List.filter_cons_of_neg (by simpa using hk)]
    · have hrest : (updates.map Prod.fst).filter (· ∉ fields.map Prod.fst ++ [k]) =
          (updates.map Prod.fst).filter (· ∉ fields.map Prod.fst) := by
        refine List.filter_congr fun other hother => ?_
        have hne : other ≠ k := fun heq => h.1 (heq ▸ hother)
        simp [hne]
      rw [if_neg hk, List.filter_cons_of_pos (by simpa using hk), hrest, List.append_assoc]
      rfl

/-- New fields stand behind those that were there. -/
lemma putAll_of_nodup {updates : Fields} (h : ((fields ++ updates).map Prod.fst).Nodup) :
    putAll updates fields = fields ++ updates := by
  induction updates generalizing fields with
  | nil => exact (List.append_nil fields).symm
  | cons entry updates ih =>
    obtain ⟨k, u⟩ := entry
    have hnew : k ∉ fields.map Prod.fst := by
      rw [List.map_append, List.nodup_append] at h
      intro hmem
      exact h.2.2 k hmem k List.mem_cons_self rfl
    have happend : fields ++ [(k, u)] ++ updates = fields ++ (k, u) :: updates := by simp
    calc putAll ((k, u) :: updates) fields = putAll updates (put k u fields) := rfl
      _ = putAll updates (fields ++ [(k, u)]) := by rw [put_of_notMem hnew]
      _ = fields ++ (k, u) :: updates := by rw [ih (by rwa [happend]), happend]

/-- Entries with distinct keys are the fields that are built from them. -/
lemma ofEntries_of_nodup (h : (fields.map Prod.fst).Nodup) : ofEntries fields = fields :=
  putAll_of_nodup h

end Fields

/-! ### Editing texts -/

namespace Value

/-- How a value changes when a text that is reached through objects becomes another text. -/
inductive TextEdit : Value → Value → Prop
  | refl (v : Value) : TextEdit v v
  | text (s t : Text) : TextEdit (.text s) (.text t)
  | field {key : Text} {fields : Fields} {v w : Value} (hv : Fields.get? key fields = some v)
    (h : TextEdit v w) : TextEdit (.object fields) (.object (Fields.put key w fields))

variable {v w : Value} {fields fields' : Fields}

/-- An edit of a text leaves lists as they are. -/
lemma TextEdit.eq_of_list {items : List Value} (h : TextEdit (.list items) w) :
    w = .list items := by
  cases h
  rfl

lemma TextEdit.of_list {items : List Value} (h : TextEdit v (.list items)) : v = .list items := by
  cases h
  rfl

/-- An edit makes objects of objects only. -/
lemma TextEdit.of_object (h : TextEdit v (.object fields')) :
    ∃ fields, v = .object fields ∧ TextEdit (.object fields) (.object fields') := by
  cases h with
  | refl => exact ⟨fields', rfl, .refl _⟩
  | field hv h => exact ⟨_, rfl, .field hv h⟩

lemma TextEdit.object (h : TextEdit (.object fields) w) : ∃ fields', w = .object fields' := by
  cases h <;> exact ⟨_, rfl⟩

/-- A path that ends at a text goes through objects. -/
lemma exists_field_of_atPath {key : Text} {rest : List Text} {s : Text}
    (h : v.atPath (key :: rest) = .text s) :
    ∃ fields inner, v = .object fields ∧ Fields.get? key fields = some inner ∧
      inner.atPath rest = .text s := by
  have hnull : ∀ path : List Text, Value.null.atPath path ≠ .text s := by
    intro path
    induction path with
    | nil => exact nofun
    | cons key path ih => exact ih
  cases v with
  | object fields =>
    cases hf : Fields.get? key fields with
    | none =>
      rw [atPath, fieldOrNull, field?, hf] at h
      exact absurd h (hnull rest)
    | some inner =>
      rw [atPath, fieldOrNull, field?, hf] at h
      exact ⟨fields, inner, rfl, hf, h⟩
  | _ => exact absurd h (hnull rest)

lemma pathKeys_ne_nil (path : Text) : pathKeys path ≠ [] := by
  simpa [pathKeys] using Text.splitAtMark_ne_nil '.' path.toList

lemma putAtPath_singleton (new : Value) (key : Text) (fields : Fields) :
    putAtPath new [key] (.object fields) = .object (Fields.put key new fields) := rfl

/-- A path is followed while there are fields. -/
lemma putAtPath_cons_cons {new inner : Value} {key next : Text} {rest : List Text}
    (h : Fields.get? key fields = some inner) :
    putAtPath new (key :: next :: rest) (.object fields) =
      .object (Fields.put key (putAtPath new (next :: rest) inner) fields) := by
  simp [putAtPath, h]

/-- Without the next field nothing changes. -/
lemma putAtPath_of_none {new : Value} {key next : Text} {rest : List Text}
    (h : Fields.get? key fields = none) :
    putAtPath new (key :: next :: rest) (.object fields) = .object fields := by
  simp [putAtPath, h]

/-- Replacing the text at the end of a path is an edit of a text. -/
lemma textEdit_putAtPath {path : List Text} {s : Text} (t : Text) (hp : path ≠ [])
    (h : v.atPath path = .text s) : TextEdit v (putAtPath (.text t) path v) := by
  induction path generalizing v with
  | nil => exact absurd rfl hp
  | cons key rest ih =>
    obtain ⟨fields, inner, rfl, hf, hinner⟩ := exists_field_of_atPath h
    cases rest with
    | nil =>
      obtain rfl : inner = .text s := hinner
      exact .field hf (.text s t)
    | cons next rest =>
      rw [putAtPath_cons_cons hf]
      exact .field hf (ih (by simp) hinner)

/-- What is found under a key before and after an edit is the same up to an edit. -/
lemma TextEdit.get?_of_some (h : TextEdit (.object fields) (.object fields')) {key : Text}
    (hw : Fields.get? key fields' = some w) :
    ∃ v, Fields.get? key fields = some v ∧ TextEdit v w := by
  cases h with
  | refl => exact ⟨w, hw, .refl w⟩
  | @field key' _ v u hv h =>
    rw [Fields.get?_put] at hw
    by_cases hk : key' = key
    · subst hk
      rw [if_pos rfl] at hw
      exact ⟨v, hv, Option.some.inj hw ▸ h⟩
    · rw [if_neg hk] at hw
      exact ⟨w, hw, .refl w⟩

/-- An edited object has the edited values in its fields. -/
lemma TextEdit.get?_of_some' (h : TextEdit (.object fields) (.object fields')) {key : Text}
    (hv : Fields.get? key fields = some v) :
    ∃ w, Fields.get? key fields' = some w ∧ TextEdit v w := by
  cases h with
  | refl => exact ⟨v, hv, .refl v⟩
  | @field key' _ u w hu h =>
    rw [Fields.get?_put]
    by_cases hk : key' = key
    · subst hk
      rw [hu] at hv
      exact ⟨w, if_pos rfl, Option.some.inj hv ▸ h⟩
    · exact ⟨v, by rw [if_neg hk, hv], .refl v⟩

lemma TextEdit.items?_eq (h : TextEdit v w) : w.items? = v.items? := by
  cases h <;> rfl

/-- An edit brings no fields. -/
lemma TextEdit.get?_of_none (h : TextEdit (.object fields) (.object fields')) {key : Text}
    (hv : Fields.get? key fields = none) : Fields.get? key fields' = none := by
  cases hw : Fields.get? key fields' with
  | none => rfl
  | some w =>
    obtain ⟨v, hv', -⟩ := h.get?_of_some hw
    rw [hv] at hv'
    cases hv'

/-- An edit of a text leaves the lists that stand in fields. -/
lemma TextEdit.items?_get? (h : TextEdit (.object fields) (.object fields')) (key : Text) :
    (Fields.get? key fields').bind items? = (Fields.get? key fields).bind items? := by
  cases hv : Fields.get? key fields with
  | none => rw [h.get?_of_none hv]
  | some v =>
    obtain ⟨w, hw, hedit⟩ := h.get?_of_some' hv
    rw [hw]
    exact hedit.items?_eq

/-- An edit of a text leaves the objects that stand in fields objects. -/
lemma TextEdit.objectAt (h : TextEdit (.object fields) (.object fields')) (key : Text) :
    TextEdit (.object (Fields.objectAt key fields)) (.object (Fields.objectAt key fields')) := by
  cases hv : Fields.get? key fields with
  | none => simpa [Fields.objectAt, hv, h.get?_of_none hv] using TextEdit.refl _
  | some v =>
    obtain ⟨w, hw, hedit⟩ := h.get?_of_some' hv
    cases hedit with
    | refl => simpa [Fields.objectAt, hv, hw] using TextEdit.refl _
    | text s t => simpa [Fields.objectAt, hv, hw] using TextEdit.refl _
    | field hf hedit => simpa [Fields.objectAt, hv, hw] using TextEdit.field hf hedit

end Value

end TripProposal
