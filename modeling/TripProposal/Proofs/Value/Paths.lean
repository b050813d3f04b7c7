import TripProposal.Proofs.Value.Fields

/-!
# Values at paths

What stands at a path of keys, a path that leads nowhere being told from one that leads to `null`.
Replacing the text at the end of a path changes what stands there and nothing that stands beside
it, and paths that are written differently are different paths.
-/

namespace TripProposal

open Text

namespace Value

/-- Paths are determined by their keys. -/
lemma pathKeys_injective : Function.Injective pathKeys := by
  intro path other h
  have hpieces : splitAtMark '.' path.toList = splitAtMark '.' other.toList :=
    (List.map_inj_right fun _ _ => Text.ofList_inj.mp).mp h
  refine Text.toList_injective ?_
  rw [← intercalate_splitAtMark (.char '.') path.toList, hpieces, intercalate_splitAtMark]

/-! ### Reading -/

/-- What stands at the end of a path, if anything does. -/
def at? : List Text → Value → Option Value
  | [], v => some v
  | key :: rest, v => (v.field? key).bind (at? rest)

variable {v w : Value} {fields : Fields} {key next : Text} {path other rest : List Text}
  {s u : Text}

lemma at?_cons (key : Text) (rest : List Text) (v : Value) :
    at? (key :: rest) v = (v.field? key).bind (at? rest) := rfl

lemma at?_object_cons (key : Text) (rest : List Text) (fields : Fields) :
    at? (key :: rest) (.object fields) = (Fields.get? key fields).bind (at? rest) := rfl

lemma at?_object_singleton (key : Text) (fields : Fields) :
    at? [key] (.object fields) = Fields.get? key fields := by
  rw [at?_object_cons]
  cases Fields.get? key fields <;> rfl

/-- Below a key, only an object has anything. -/
lemma at?_cons_cons : at? (key :: next :: rest) (.object fields) =
    at? (next :: rest) (.object (Fields.objectAt key fields)) := by
  rw [at?_object_cons, Fields.objectAt]
  cases hv : Fields.get? key fields with
  | none => rfl
  | some v => cases v <;> rfl

/-- Reading a path gives `null` where nothing stands. -/
lemma atPath_eq_getD (path : List Text) (v : Value) : v.atPath path = (v.at? path).getD .null := by
  induction path generalizing v with
  | nil => rfl
  | cons key rest ih =>
    have hnull : ∀ path : List Text, Value.null.atPath path = .null := by
      intro path
      induction path with
      | nil => rfl
      | cons key path ih => exact ih
    rw [atPath, at?_cons, fieldOrNull]
    cases v.field? key with
    | none => exact hnull rest
    | some inner => exact ih inner

/-- The only way to find a text is that it stands there. -/
lemma atPath_eq_text_iff : v.atPath path = .text s ↔ v.at? path = some (.text s) := by
  rw [atPath_eq_getD]
  cases v.at? path <;> simp

/-! ### Replacing a text -/

/-- What replaces the text at the end of a path stands there afterwards. -/
lemma at?_putAtPath_self (new : Value) (hp : path ≠ []) (h : v.at? path = some (.text s)) :
    (putAtPath new path v).at? path = some new := by
  induction path generalizing v with
  | nil => exact absurd rfl hp
  | cons key rest ih =>
    obtain ⟨fields, inner, rfl, hinner, hrest⟩ := exists_field_of_atPath (atPath_eq_text_iff.mpr h)
    cases rest with
    | nil => rw [putAtPath_singleton, at?_object_cons, Fields.get?_put_self]; rfl
    | cons next rest =>
      rw [putAtPath_cons_cons hinner, at?_object_cons, Fields.get?_put_self]
      exact ih (by simp) (atPath_eq_text_iff.mp hrest)

/-- Replacing the text at the end of a path by a text changes nothing that is not on the way. -/
lemma at?_putAtPath_of_not_isPrefix (t : Text) (h : v.at? path = some (.text s))
    (ho : ¬ other <+: path) : (putAtPath (.text t) path v).at? other = v.at? other := by
  -- On the written path: where the other one leaves it, nothing has changed.
  induction path generalizing v other with
  | nil => rfl
  | cons key rest ih =>
    obtain ⟨fields, inner, rfl, hinner, hrest⟩ := exists_field_of_atPath (atPath_eq_text_iff.mpr h)
    cases other with
    | nil => exact absurd List.nil_prefix ho
    | cons key' other =>
      rw [List.cons_prefix_cons, not_and] at ho
      by_cases hk : key' = key
      · subst hk
        have ho := ho rfl
        cases rest with
        | nil =>
          obtain rfl : inner = .text s := hrest
          obtain ⟨next, other, rfl⟩ := List.exists_cons_of_ne_nil (l := other) (by rintro rfl; simp at ho)
          rw [putAtPath_singleton, at?_object_cons, at?_object_cons, Fields.get?_put_self, hinner]
          rfl
        | cons next rest =>
          rw [putAtPath_cons_cons hinner, at?_object_cons, at?_object_cons, Fields.get?_put_self,
            hinner]
          exact ih (atPath_eq_text_iff.mp hrest) ho
      · cases rest with
        | nil =>
          rw [putAtPath_singleton, at?_object_cons, at?_object_cons,
            Fields.get?_put_of_ne (Ne.symm hk)]
        | cons next rest =>
          rw [putAtPath_cons_cons hinner, at?_object_cons, at?_object_cons,
            Fields.get?_put_of_ne (Ne.symm hk)]

/-- Nothing stands below a text. -/
lemma eq_of_prefix_of_text (hp : other <+: path) (h : v.at? other = some (.text s))
    (hw : v.at? path = some w) : other = path := by
  induction other generalizing path v with
  | nil =>
    obtain rfl := Option.some.inj h
    cases path with
    | nil => rfl
    | cons key path => cases hw
  | cons key other ih =>
    obtain ⟨rest, rfl⟩ := hp
    rw [List.cons_append, at?_cons] at hw
    rw [at?_cons] at h
    obtain ⟨inner, hinner, hother⟩ := Option.bind_eq_some_iff.mp h
    rw [hinner] at hw
    rw [List.cons_append, ← ih (List.prefix_append _ _) hother hw]

/-- Replacing a text at the end of a path leaves the texts at other paths. -/
lemma at?_putAtPath_text_iff (t : Text) (h : v.at? path = some (.text s)) (ho : other ≠ path) :
    (putAtPath (.text t) path v).at? other = some (.text u) ↔ v.at? other = some (.text u) := by
  by_cases hp : other <+: path
  · refine iff_of_false (fun hu => ?_) fun hu => ho (eq_of_prefix_of_text hp hu h)
    by_cases hnil : path = []
    · exact ho (by simpa [hnil] using hp)
    · exact ho (eq_of_prefix_of_text hp hu (at?_putAtPath_self (.text t) hnil h))
  · rw [at?_putAtPath_of_not_isPrefix t h hp]

end Value

end TripProposal
