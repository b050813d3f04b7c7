import TripProposal.Proofs.Template.Characters
import TripProposal.Proofs.Template.Delimiters
import TripProposal.Proofs.Template.Lookup

/-!
# Data without braces

When no text and no key of a document has a brace, nothing that is looked up in the document has
one, and neither has anything that a loop writes into its body.
-/

namespace TripProposal

/-- A value without braces in its texts and keys. -/
inductive Value.Plain : Value → Prop
  | null : Plain .null
  | bool (b : Bool) : Plain (.bool b)
  | int (n : Int) : Plain (.int n)
  | float (x : Number.Binary64) : Plain (.float x)
  | text {s : Text} (h : Template.IsPlain s.toList) : Plain (.text s)
  | list {items : List Value} (h : ∀ v ∈ items, Plain v) : Plain (.list items)
  | object {fields : Fields} (hkeys : ∀ key v, (key, v) ∈ fields → Template.IsPlain key.toList)
    (hvalues : ∀ key v, (key, v) ∈ fields → Plain v) : Plain (.object fields)

namespace Value.Plain

variable {v w : Value}

/-- The parts of a value without braces have none. -/
lemma of_holds (h : v.Plain) (hw : v.Holds w) : w.Plain := by
  induction hw with
  | self v => exact h
  | item hv _ ih =>
    cases h with
    | list h => exact ih (h _ hv)
  | field hv _ ih =>
    cases h with
    | object hkeys hvalues => exact ih (hvalues _ _ hv)

/-- What paths find in a value without braces has none. -/
lemma of_reaches (h : v.Plain) (hw : v.Reaches w) : w.Plain := by
  cases hw with
  | part hw => exact h.of_holds hw
  | listLength => exact .int _
  | textLength => exact .int _

end Value.Plain

namespace Template

open Text Number

variable {a : List CodePoint}

/-! ### Texts -/

/-- What numbers are written with is not a brace. -/
lemma isPlain_of_isBasic (h : IsBasic a) : IsPlain a := by
  constructor
  · intro hc
    simpa using h '{' hc
  · intro hc
    simpa using h '}' hc

lemma isPlain_decimal (n : Nat) : IsPlain (decimal n) :=
  isPlain_of_isBasic (isBasic_decimal n)

/-- What a plain item shows as has no braces. -/
lemma isPlain_display {v : Value} (hv : v.Plain) (hs : opensScope v = false) :
    IsPlain (display (some v)) := by
  have hchar : ∀ c ∈ display (some v), c ≠ '{' ∧ c ≠ '}' := by
    intro c hc
    rcases mem_display hs hc with hbasic | ⟨s, rfl, hc⟩
    · constructor <;> rintro rfl <;> simp at hbasic
    · cases hv with
      | text h => exact ⟨fun heq => h.1 (heq ▸ hc), fun heq => h.2 (heq ▸ hc)⟩
  exact ⟨fun hc => (hchar _ hc).1 rfl, fun hc => (hchar _ hc).2 rfl⟩

/-! ### Looking up -/

/-- A scope without braces in its texts and keys. -/
structure Scope.Plain (scope : Scope) : Prop where
  context : scope.context.Plain
  parent : ∀ v ∈ scope.parent?, v.Plain

/-- An entry without braces in its key, its texts and their keys. -/
structure Entry.Plain (entry : Entry) : Prop where
  key : IsPlain entry.key
  value : entry.value.Plain

namespace Scope.Plain

variable {scope : Scope} {v : Value}

lemma root {document : Value} (h : document.Plain) : (Scope.root document).Plain :=
  ⟨h, fun _ hv => nomatch hv⟩

lemma enter (h : scope.Plain) (hv : v.Plain) : (scope.enter v).Plain :=
  ⟨hv, fun _ hp => Option.some.inj hp ▸ h.context⟩

lemma of_reaches (h : scope.Plain) (hv : scope.Reaches v) : v.Plain := by
  rcases hv with hv | ⟨parent, hp, hv⟩
  · exact h.context.of_reaches hv
  · exact (h.parent parent hp).of_reaches hv

lemma resolve (h : scope.Plain) {path : List CodePoint} (hv : scope.resolve path = .ok (some v)) :
    v.Plain :=
  h.of_reaches (Scope.reaches_resolve hv)

lemma target (h : scope.Plain) {expression : List CodePoint}
    (hv : scope.target expression = .ok (some v)) : v.Plain :=
  h.of_reaches (Scope.reaches_target hv)

end Scope.Plain

/-- The entries of a collection without braces have none. -/
lemma plain_of_mem_entriesOf {v : Option Value} (h : ∀ w ∈ v, w.Plain) :
    ∀ entry ∈ entriesOf v, entry.Plain := by
  intro entry he
  cases v with
  | none => cases he
  | some v =>
    refine ⟨?_, (h v rfl).of_holds (holds_of_mem_entriesOf he)⟩
    rcases key_of_mem_entriesOf he with ⟨n, hkey⟩ | ⟨fields, key, w, rfl, hm, hkey⟩
    · rw [hkey]
      exact isPlain_decimal n
    · rw [hkey]
      cases h _ rfl with
      | object hkeys hvalues => exact hkeys key w hm

/-- Inside a loop over plain data the data is plain. -/
lemma Entry.Plain.scope {entry : Entry} {scope : Scope} (h : entry.Plain) (hs : scope.Plain) :
    (entry.scope scope).Plain := by
  unfold Entry.scope
  split
  · exact hs.enter h.value
  · exact hs

end Template

end TripProposal
