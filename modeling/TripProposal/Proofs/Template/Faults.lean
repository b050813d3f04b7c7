import TripProposal.Proofs.Outcomes
import TripProposal.Proofs.Template.Lookup
import TripProposal.Proofs.Template.Segmentation

/-!
# Where faults come from

A path fails where a part of it looks like a position and is none, a value tag where its path or
its value fails, and a block where its path or one of the levels that it opens fails. So what is
known of these is known of a whole rendering, by one induction over its levels.
-/

namespace TripProposal.Template

open Text

variable {fault : Fault} {v : Value} {scope : Scope} {path expression body : List CodePoint}
  {kind : BlockKind}

/-! ### Paths -/

/-- The only fault of a position is that it is none. -/
lemma eq_notAnIndex_of_indexOf? {segment : List CodePoint} (h : indexOf? segment = .error fault) :
    fault = .notAnIndex segment := by
  unfold indexOf? at h
  split at h
  · split at h
    · cases h
    · exact (Except.error.inj h).symm
  · cases h

lemma indexOf?_of_step {segment : List CodePoint} (h : step v segment = .error fault) :
    indexOf? segment = .error fault := by
  unfold step at h
  split at h
  · cases h
  · split at h
    · cases h
    · exact eq_error_of_map h
  · cases h
  · cases h

/-- A fault on a path comes from one of its segments. -/
lemma indexOf?_of_walk {path : List (List CodePoint)} (h : walk v path = .error fault) :
    ∃ segment ∈ path, indexOf? segment = .error fault := by
  induction path generalizing v with
  | nil => cases h
  | cons segment path ih =>
    rw [walk] at h
    split at h
    · obtain ⟨segment', hm, hindex⟩ := ih h
      exact ⟨segment', List.mem_cons_of_mem _ hm, hindex⟩
    · cases h
    · next hstep =>
      cases h
      exact ⟨segment, List.mem_cons_self, indexOf?_of_step hstep⟩

/-- So does one of a path in one text. -/
lemma indexOf?_of_valueAt (h : valueAt v path = .error fault) :
    ∃ segment ∈ splitAtMark '.' path, indexOf? segment = .error fault := by
  unfold valueAt at h
  split at h
  · cases h
  · exact indexOf?_of_walk h

/-- A path fails at one of its parts. -/
lemma indexOf?_of_resolve (h : scope.resolve path = .error fault) :
    ∃ segment ∈ splitAtMark '.' path, indexOf? segment = .error fault := by
  unfold Scope.resolve at h
  split at h
  · split at h
    · exact indexOf?_of_valueAt h
    · cases h
  · exact indexOf?_of_valueAt h

/-- A fault of a lookup comes from the key that is shown. -/
lemma indexOf?_of_lookup {collection key : Option Value}
    (h : lookup collection key = .error fault) :
    ∃ v ∈ key, indexOf? (display (some v)) = .error fault := by
  unfold lookup at h
  split at h
  · cases h
  · cases h
  · cases h
  · next hnone _ =>
    cases key with
    | none => exact absurd rfl hnone
    | some v => exact ⟨v, rfl, eq_error_of_map h⟩
  · cases h

/-- A target fails where a path fails, or where a list is looked into. -/
lemma error_of_target (h : scope.target expression = .error fault) :
    scope.resolve expression = .error fault ∨ ∃ object key,
      parseLookup? expression = some (object, key) ∧
        (scope.resolve object = .error fault ∨ scope.resolve key = .error fault ∨
          ∃ v, scope.resolve key = .ok (some v) ∧ indexOf? (display (some v)) = .error fault) := by
  unfold Scope.target at h
  split at h
  · exact .inl h
  · next object key hparse =>
    refine .inr ⟨object, key, hparse, ?_⟩
    cases hcollection : scope.resolve object with
    | error fault' =>
      rw [hcollection] at h
      cases h
      exact .inl rfl
    | ok collection =>
      cases hkey : scope.resolve key with
      | error fault' =>
        rw [hcollection, hkey] at h
        cases h
        exact .inr (.inl rfl)
      | ok found =>
        rw [hcollection, hkey] at h
        obtain ⟨v, hv, hindex⟩ := indexOf?_of_lookup h
        rw [Option.mem_def.mp hv]
        exact .inr (.inr ⟨v, rfl, hindex⟩)

/-! ### Value tags -/

/-- A fault comes from the path or from what is shown there. -/
lemma error_of_bind {shown : Option Value → Except Fault (List CodePoint)}
    (h : (scope.resolve path).bind shown = .error fault) :
    scope.resolve path = .error fault ∨
      ∃ v, scope.resolve path = .ok v ∧ shown v = .error fault := by
  cases hresolve : scope.resolve path with
  | error fault' =>
    rw [hresolve] at h
    cases h
    exact .inl rfl
  | ok v =>
    rw [hresolve] at h
    exact .inr ⟨v, rfl, h⟩

/-- A value fails to show as dollars where its amount cannot be read, or is too long. -/
lemma error_of_displayCurrency {v : Option Value} (h : displayCurrency v = .error fault) :
    ∃ w ∈ v, amountOf w = .error fault ∨ (fault = .amountTooLong ∧ ∃ a,
      amountOf w = .ok (some a) ∧ Value.maxDigits < (decimal (a.cents / 100)).length) := by
  unfold displayCurrency at h
  split at h
  · cases h
  · cases h
  · next w _ =>
    refine ⟨w, rfl, ?_⟩
    cases hamount : amountOf w with
    | error fault' =>
      rw [hamount] at h
      cases h
      exact .inl rfl
    | ok found =>
      rw [hamount] at h
      cases found with
      | none => cases h
      | some a =>
        change a.text = .error fault at h
        unfold Amount.text at h
        split at h
        · cases h
        · next hdigits =>
          cases h
          exact .inr ⟨rfl, a, rfl, Nat.lt_of_not_le hdigits⟩

/-- A value cannot be put into a URL where its text has no bytes. -/
lemma error_of_displayUri {v : Option Value} (h : displayUri v = .error fault) :
    fault = .notEncodable (display v) ∧ (display v).all CodePoint.isChar = false := by
  unfold displayUri at h
  split at h
  · unfold Url.percentEncode at h
    split at h
    · cases h
    · next hchars =>
      cases h
      exact ⟨rfl, eq_false_of_ne_true hchars⟩
  · cases h

/-- A value tag fails where its path fails, or where a value has no amount, no count or no bytes. -/
lemma error_of_tagText {engine : Engine} {tag : Tag} (h : engine.tagText scope tag = .error fault) :
    scope.resolve tag.expression = .error fault ∨ ∃ v, scope.resolve tag.expression = .ok v ∧
      (displayCurrency v = .error fault ∨ displayUri v = .error fault ∨
        ∃ singular plural?, displayCount v singular plural? = .error fault) := by
  cases tag with
  | timestamp => cases h
  | helper helper path =>
    refine (error_of_bind h).imp_right ?_
    rintro ⟨v, hv, hshown⟩
    cases helper with
    | currency => exact ⟨v, hv, .inl hshown⟩
    | encodeUri => exact ⟨v, hv, .inr (.inl hshown)⟩
    | _ => cases hshown
  | pluralize path singular plural? =>
    refine (error_of_bind h).imp_right ?_
    rintro ⟨v, hv, hshown⟩
    exact ⟨v, hv, .inr (.inr ⟨singular, plural?, hshown⟩)⟩
  | fallback path text => exact .inl (eq_error_of_map h)
  | _ => exact .inl (eq_error_of_map (f := engine.showPlain) h)

/-! ### Renderings -/

namespace Rendering

/-- Whether a rendering ends with a text, or with a fault of some kind. -/
def FaultsIn (P : Fault → Prop) (r : Rendering) : Prop :=
  ∀ fault, r.fault? = some fault → P fault

variable {P : Fault → Prop} {r : Rendering} {α : Type}

lemma faultsIn_empty : empty.FaultsIn P := nofun

lemma faultsIn_ofText (text : List CodePoint) : (ofText text).FaultsIn P := nofun

lemma faultsIn_failed (h : P fault) : (failed fault).FaultsIn P := by
  intro fault' hf
  exact Option.some.inj hf ▸ h

lemma faultsIn_ofExcept {shown : Except Fault (List CodePoint)}
    (h : ∀ fault, shown = .error fault → P fault) : (ofExcept shown).FaultsIn P := by
  cases shown with
  | ok text => exact faultsIn_ofText text
  | error fault => exact faultsIn_failed (h fault rfl)

lemma faultsIn_ofFound {found : Except Fault α} {next : α → Rendering}
    (h : ∀ fault, found = .error fault → P fault)
    (h' : ∀ v, found = .ok v → (next v).FaultsIn P) : (ofFound found next).FaultsIn P := by
  cases found with
  | ok v => exact h' v rfl
  | error fault => exact faultsIn_failed (h fault rfl)

/-- Faults of two renderings are those of one or the other. -/
lemma FaultsIn.andThen {next : Unit → Rendering} (h : r.FaultsIn P) (h' : (next ()).FaultsIn P) :
    (r.andThen next).FaultsIn P := by
  intro fault hf
  unfold Rendering.andThen at hf
  split at hf
  · exact h fault hf
  · exact h' fault hf

/-- Faults of several renderings are those of one of them. -/
lemma faultsIn_concatMap {f : α → Rendering} {l : List α} (h : ∀ v ∈ l, (f v).FaultsIn P) :
    (concatMap f l).FaultsIn P := by
  induction l with
  | nil => exact faultsIn_empty
  | cons v l ih =>
    exact (h v List.mem_cons_self).andThen (ih fun w hw => h w (List.mem_cons_of_mem _ hw))

end Rendering

open Rendering

/-! ### Levels -/

/-- A block with a path or expression and a body opens a level: it renders a text in a scope. -/
inductive Opens (scope : Scope) (expression body : List CodePoint) :
    BlockKind → Scope → List CodePoint → Prop
  | branch {present : Bool} {text : List CodePoint} (h : branch? present body = some text) :
    Opens scope expression body .whenSet scope text
  /-- The body of a condition on the absence of a value. -/
  | unset : Opens scope expression body .whenUnset scope body
  | entry {v : Value} {entry : Entry} (hv : scope.resolve expression = .ok (some v))
    (he : entry ∈ entriesOf (some v)) :
    Opens scope expression body .forEach (entry.scope scope) (entry.body body)
  | inside {v : Value} (hv : scope.target expression = .ok (some v)) :
    Opens scope expression body .within (scope.enter v) body

/-- A branch is a part of the body. -/
lemma part_of_branch? {present : Bool} {text : List CodePoint}
    (h : branch? present body = some text) :
    text <:+: body := by
  unfold branch? at h
  split at h <;> cases h
  · exact List.infix_rfl
  · exact (List.take_prefix _ _).isInfix
  · exact (List.drop_suffix _ _).isInfix

/-- The scopes of all levels find nothing but what the document reaches. -/
lemma Opens.within {data : Value} {scope' : Scope} {text : List CodePoint}
    (h : Opens scope expression body kind scope' text) (hscope : scope.Within data) :
    scope'.Within data := by
  cases h with
  | branch _ => exact hscope
  | unset => exact hscope
  | entry hv he => exact within_entryScope hscope (hscope _ (Scope.reaches_resolve hv)) he
  | inside hv => exact hscope.enter (hscope _ (Scope.reaches_target hv))

/-- A block fails where its path or expression fails, or on a level that it opens. -/
lemma faultsIn_renderBlock {P : Fault → Prop} {render : Scope → List CodePoint → Rendering}
    (hpath : ∀ fault, scope.resolve expression = .error fault ∨
      scope.target expression = .error fault → P fault)
    (hrender : ∀ scope' text, Opens scope expression body kind scope' text →
      (render scope' text).FaultsIn P) :
    (renderBlock render scope kind expression body).FaultsIn P := by
  have hresolve : ∀ fault, scope.resolve expression = .error fault → P fault :=
    fun fault h => hpath fault (.inl h)
  -- A block fails at its path or in the body that it opens.
  cases kind with
  | whenSet =>
    refine faultsIn_ofFound hresolve fun v _ => ?_
    split
    · next text hbranch => exact hrender _ _ (.branch hbranch)
    · exact faultsIn_empty
  | whenUnset =>
    refine faultsIn_ofFound hresolve fun v _ => ?_
    split
    · exact faultsIn_empty
    · exact hrender _ _ .unset
  | forEach =>
    refine faultsIn_ofFound hresolve fun v hv => faultsIn_concatMap fun entry he => ?_
    cases v with
    | none => cases he
    | some v => exact hrender _ _ (.entry hv he)
  | within =>
    refine faultsIn_ofFound (fun fault h => hpath fault (.inr h)) fun v hv => ?_
    split
    · split
      · exact hrender _ _ (.inside hv)
      · exact faultsIn_empty
    · exact faultsIn_empty

/-- What holds for a template and for all levels below it, down to the last one allowed, and leaves
its paths and value tags no other faults than some. -/
structure LevelInvariant (engine : Engine) (P : Fault → Prop)
    (Holds : Nat → Scope → List CodePoint → Prop) : Prop where
  bottom : ∀ {scope template}, Holds 0 scope template → P .tooDeep
  value : ∀ {depth scope template tag fault}, Holds (depth + 1) scope template →
    .value tag ∈ segments template → engine.tagText scope tag = .error fault → P fault
  path : ∀ {depth scope template kind expression body fault}, Holds (depth + 1) scope template →
    .block kind expression body ∈ segments template →
    scope.resolve expression = .error fault ∨ scope.target expression = .error fault → P fault
  level : ∀ {depth scope template kind expression body scope' text},
    Holds (depth + 1) scope template → .block kind expression body ∈ segments template →
    Opens scope expression body kind scope' text → Holds depth scope' text

/-- An invariant of levels bounds the faults of a whole rendering. -/
lemma LevelInvariant.faultsIn_renderAt {engine : Engine} {P : Fault → Prop}
    {Holds : Nat → Scope → List CodePoint → Prop} (hlevels : LevelInvariant engine P Holds)
    {depth : Nat} {template : List CodePoint} (h : Holds depth scope template) :
    (engine.renderAt depth scope template).FaultsIn P := by
  induction depth generalizing scope template with
  | zero => exact faultsIn_failed (hlevels.bottom h)
  | succ depth ih =>
    refine faultsIn_concatMap fun segment hm => ?_
    cases segment with
    | text text => exact faultsIn_ofText text
    | stray content => exact faultsIn_ofText _
    | unclosed content => nofun
    | value tag => exact faultsIn_ofExcept fun fault => hlevels.value h hm
    | block kind expression body =>
      refine faultsIn_renderBlock (fun fault => hlevels.path h hm) ?_
      intro scope' text hopens
      exact ih (hlevels.level h hm hopens)

end TripProposal.Template
