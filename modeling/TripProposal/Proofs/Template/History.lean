import Mathlib.Data.List.Basic
import Mathlib.Tactic.Common
import TripProposal.Proofs.Histories
import TripProposal.Template.Registry

/-!
# Histories of a registry

What a registry answers depends on what happened to it so far: on the texts that were stored, on
the searches that found something, and on when it forgot. Here a history is the list of operations
with their answers, and a run is right when each of its answers is what the history before it
calls for.
-/

namespace TripProposal.Template

open Text

/-! ### Operations -/

/-- An operation on a registry. -/
inductive Operation
  | put (key text : Text)
  | get (name : Text) (scope : Option Text)
  | isCached (name : Text) (scope : Option Text)
  | clear
  | list (scope : Option Text)

/-- What an operation answers. -/
inductive Answer
  | done
  | text (found : Except Unresolved Text)
  | flag (b : Bool)
  | listing (l : Listing)

/-- An operation that took place, with its answer. -/
structure Event where
  operation : Operation
  answer : Answer

namespace Registry

/-- Perform an operation. -/
def perform (r : Registry) : Operation → Answer × Registry
  | .put key text => (.done, r.put key text)
  | .get name scope => (.text (r.get name scope).1.outcome, (r.get name scope).2)
  | .isCached name scope => (.flag (r.isCached name scope), r)
  | .clear => (.done, r.clear)
  | .list scope => (.listing (r.store.listing scope), r)

/-- The events of operations one after the other. -/
def run (r : Registry) : List Operation → List Event
  | [] => []
  | operation :: rest => ⟨operation, (r.perform operation).1⟩ :: (r.perform operation).2.run rest

end Registry

/-! ### What a history calls for -/

/-- The template was found in a history, and nothing was forgotten since. -/
def Remembers (history : List Event) (name : Text) (scope : Option Text) (text : Text) :
    Prop :=
  ∃ before scope' after, history = before ++ ⟨.get name scope', .text (.ok text)⟩ :: after ∧
    scope? scope' = scope? scope ∧ ∀ event ∈ after, event.operation ≠ .clear

/-- The text that is stored under a key after an event. -/
def storedAfter (key : Text) (found : Option Text) (event : Event) : Option Text :=
  match event.operation with
  | .put key' text => if key' = key then some text else found
  | _ => found

/-- The text that is stored under a key at the end of a history: the last one that was put there,
or else the one in the initial table. -/
def storedText? (templates : List (Text × Text)) (history : List Event) (key : Text) :
    Option Text :=
  history.foldl (storedAfter key) (templates.lookup key)

/-- The keys of a template, that of the scope before the shared one. -/
def storedKeys (name : Text) : Option Text → List Text
  | none => ["_templates/" ++ name]
  | some scope =>
    if scope = "" then ["_templates/" ++ name]
    else [scope ++ "_templates/" ++ name, "_templates/" ++ name]

/-- What a search finds at the end of a history: the first stored text that is not empty, or else
the built-in text of the default template. -/
def searched (templates : List (Text × Text)) (history : List Event) (name : Text)
    (scope : Option Text) : Except Unresolved Text :=
  match (storedKeys name scope).findSome? fun key =>
      (storedText? templates history key).filter (fun text : Text => text ≠ "") with
  | some text => .ok text
  | none =>
    if name = "default" then .ok builtInText
    else .error (.missing ⟨name, scope, storedKeys name scope⟩)

variable {templates : List (Text × Text)} {history : List Event} {event : Event}
  {name text key : Text} {scope : Option Text} {r : Registry}

/-! ### Histories that grow -/

/-- A text is remembered since it was asked for, unless the cache was cleared. -/
lemma remembers_iff_since : Remembers history name scope text ↔
    Since (fun event => event.operation ≠ .clear) (fun _ event => ∃ scope',
      event = ⟨.get name scope', .text (.ok text)⟩ ∧ scope? scope' = scope? scope) history := by
  constructor
  · rintro ⟨before, scope', after, heq, hscope, hkept⟩
    exact ⟨before, _, after, heq, ⟨scope', rfl, hscope⟩, hkept⟩
  · rintro ⟨before, _, after, heq, ⟨scope', rfl, hscope⟩, hkept⟩
    exact ⟨before, scope', after, heq, hscope, hkept⟩

lemma not_remembers_nil : ¬ Remembers [] name scope text := by
  rw [remembers_iff_since]
  exact not_since_nil

/-- A longer history remembers what the last event found, and what was remembered unless the last
event was to forget. -/
lemma remembers_append_singleton : Remembers (history ++ [event]) name scope text ↔
    (∃ scope', event = ⟨.get name scope', .text (.ok text)⟩ ∧ scope? scope' = scope? scope) ∨
      (event.operation ≠ .clear ∧ Remembers history name scope text) := by
  rw [remembers_iff_since, remembers_iff_since, since_append_singleton]

/-- The last operation decides about its own key. -/
lemma storedText?_append_singleton : storedText? templates (history ++ [event]) key =
    storedAfter key (storedText? templates history key) event := by
  simp [storedText?]

/-! ### Searching -/

lemma keysFor_eq (name : Text) (scope : Option Text) :
    keysFor name scope = storedKeys name scope := by
  unfold keysFor placesFor storedKeys scope? keySpace
  cases scope with
  | none => rfl
  | some scope => by_cases hscope : scope = "" <;> simp [Option.filter, hscope]

/-- Where every key can be read, a search finds the first text that is not empty. -/
lemma outcome_searchPlaces {store : Store} (stored : Text → Option Text)
    (places : List (Tier × Text)) (h : ∀ place ∈ places, store.get? place.2 = .ok (stored place.2)) :
    ∃ found, (searchPlaces store places).outcome = .ok found ∧
      found.map (·.2) = (places.map (·.2)).findSome? fun key =>
        (stored key).filter (fun text : Text => text ≠ "") := by
  induction places with
  | nil => exact ⟨none, rfl, rfl⟩
  | cons place places ih =>
    obtain ⟨tier, key⟩ := place
    obtain ⟨hkey, hrest⟩ := List.forall_mem_cons.mp h
    rw [searchPlaces, hkey, List.map_cons, List.findSome?_cons]
    dsimp only
    cases (stored key).filter (fun text : Text => text ≠ "") with
    | some text => exact ⟨some (tier, text), rfl, rfl⟩
    | none => exact ih hrest

/-- A search that fails leaves the template without a text, and one that finds nothing leaves the
built-in text. -/
lemma Store.outcome_resolve (store : Store) (name : Text) (scope : Option Text) :
    (store.resolve name scope).outcome =
      match (searchPlaces store (placesFor name scope)).outcome with
      | .error fault => .error (.unreadable fault)
      | .ok (some (_, text)) => .ok text
      | .ok none => if name = defaultName then .ok builtInText
        else .error (.missing ⟨name, scope, keysFor name scope⟩) := by
  rw [Store.resolve, Logged.andThen, Logged.mapError]
  cases (searchPlaces store (placesFor name scope)).outcome with
  | error fault => rfl
  | ok found =>
    cases found with
    | some found => rfl
    | none => by_cases hname : name = defaultName <;> simp [Except.mapError, hname, Logged.error]

/-- A store that holds the texts of a history finds what the history calls for. -/
lemma outcome_resolve {store : Store}
    (h : ∀ key, store.get? key = .ok (storedText? templates history key)) :
    (store.resolve name scope).outcome = searched templates history name scope := by
  obtain ⟨found, houtcome, hfound⟩ :=
    outcome_searchPlaces _ (placesFor name scope) fun place _ => h place.2
  rw [show (placesFor name scope).map (·.2) = storedKeys name scope from keysFor_eq name scope]
    at hfound
  rw [store.outcome_resolve, houtcome]
  unfold searched
  rw [← hfound]
  cases found with
  | some found => rfl
  | none =>
    dsimp only [Option.map_none]
    rw [keysFor_eq]
    rfl

/-! ### What a registry holds -/

/-- Only the stored key changes. -/
lemma lookup_putText (key other text : Text) (templates : List (Text × Text)) :
    (Store.putText key text templates).lookup other =
      if key = other then some text else templates.lookup other := by
  induction templates with
  | nil =>
    by_cases h : key = other
    · simp [Store.putText, h]
    · simp [Store.putText, h, List.lookup_cons, beq_eq_false_iff_ne.mpr (Ne.symm h)]
  | cons entry templates ih =>
    obtain ⟨k, t⟩ := entry
    rw [Store.putText]
    by_cases hk : k = key
    · subst hk
      by_cases ho : k = other
      · simp [ho]
      · simp [List.lookup_cons, ho, beq_eq_false_iff_ne.mpr (Ne.symm ho)]
    · rw [if_neg hk]
      by_cases ho : other = k
      · subst ho
        simp [Ne.symm hk]
      · simp [List.lookup_cons, beq_eq_false_iff_ne.mpr ho, ih]

/-- A registry holds what a history calls for: the texts that were stored, and those that are
remembered. -/
structure Follows (templates : List (Text × Text)) (history : List Event) (r : Registry) :
    Prop where
  memory : ∃ table, r.store = .memory table
  stored : ∀ key, r.store.get? key = .ok (storedText? templates history key)
  cached : ∀ name scope text,
    r.cached? name scope = some text ↔ Remembers history name scope text

lemma follows_nil (templates : List (Text × Text)) :
    Follows templates [] ⟨.memory templates, []⟩ where
  memory := ⟨templates, rfl⟩
  stored _ := rfl
  cached name scope text := by
    constructor
    · intro h
      cases h
    · intro h
      exact absurd h not_remembers_nil

/-- A remembered text counts for its own name and scope. -/
lemma lookup_cache_cons (name name' : Text) (scope scope' : Option Text) (text : Text)
    (cache : List ((Option Text × Text) × Text)) :
    (((scope? scope', name'), text) :: cache).lookup (scope? scope, name) =
      if scope? scope' = scope? scope ∧ name' = name then some text
      else cache.lookup (scope? scope, name) := by
  rw [List.lookup_cons]
  by_cases h : scope? scope' = scope? scope ∧ name' = name
  · simp [h.1, h.2]
  · rw [if_neg h, beq_eq_false_iff_ne.mpr]
    rintro heq
    exact h ⟨(Prod.mk.inj heq).1.symm, (Prod.mk.inj heq).2.symm⟩

namespace Follows

/-- An operation that neither stores nor finds nor forgets leaves what is called for. -/
lemma idle (h : Follows templates history r)
    (hput : ∀ key text, event.operation ≠ .put key text) (hclear : event.operation ≠ .clear)
    (hget : ∀ name scope text, event ≠ ⟨.get name scope, .text (.ok text)⟩) :
    Follows templates (history ++ [event]) r where
  memory := h.memory
  stored key := by
    rw [storedText?_append_singleton, h.stored, storedAfter]
    split
    · next key' text heq => exact absurd heq (hput key' text)
    · rfl
  cached name scope text := by
    rw [remembers_append_singleton, h.cached]
    constructor
    · intro hm
      exact .inr ⟨hclear, hm⟩
    · rintro (⟨scope', heq, -⟩ | ⟨-, hm⟩)
      · exact absurd heq (hget name scope' text)
      · exact hm

/-- Storing a text leaves the cache. -/
lemma put (h : Follows templates history r) (key text : Text) :
    Follows templates (history ++ [⟨.put key text, .done⟩]) (r.put key text) where
  memory := by
    obtain ⟨table, htable⟩ := h.memory
    exact ⟨Store.putText key text table, by rw [Registry.put, htable]; rfl⟩
  stored other := by
    obtain ⟨table, htable⟩ := h.memory
    have hother := h.stored other
    rw [htable] at hother
    rw [storedText?_append_singleton, ← Except.ok.inj hother, Registry.put, htable]
    exact congrArg Except.ok (lookup_putText key other text table)
  cached name scope text' := by
    rw [remembers_append_singleton, ← h.cached]
    constructor
    · intro hm
      exact .inr ⟨by simp, hm⟩
    · rintro (⟨scope', heq, -⟩ | ⟨-, hm⟩)
      · cases heq
      · exact hm

/-- Clearing leaves the store. -/
lemma clear (h : Follows templates history r) :
    Follows templates (history ++ [⟨.clear, .done⟩]) r.clear where
  memory := h.memory
  stored key := by
    rw [storedText?_append_singleton]
    exact h.stored key
  cached name scope text := by
    rw [remembers_append_singleton]
    constructor
    · intro hm
      cases hm
    · rintro (⟨scope', heq, -⟩ | ⟨hclear, -⟩)
      · cases heq
      · exact absurd rfl hclear

/-- A text that is found is remembered. -/
lemma found (h : Follows templates history r) {name' : Text} {scope' : Option Text}
    {text' : Text} (hnone : r.cached? name' scope' = none) :
    Follows templates (history ++ [⟨.get name' scope', .text (.ok text')⟩])
      { r with cache := ((scope? scope', name'), text') :: r.cache } where
  memory := h.memory
  stored key := by
    rw [storedText?_append_singleton]
    exact h.stored key
  cached name scope text := by
    rw [remembers_append_singleton, ← h.cached, Registry.cached?, lookup_cache_cons]
    -- A remembered text counts for its own name and scope; nothing was remembered for them.
    by_cases hsame : scope? scope' = scope? scope ∧ name' = name
    · obtain ⟨hscope, rfl⟩ := hsame
      have hnone : r.cached? name' scope = none := by rwa [Registry.cached?, ← hscope]
      rw [if_pos ⟨hscope, rfl⟩]
      constructor
      · intro heq
        obtain rfl := Option.some.inj heq
        exact .inl ⟨scope', rfl, hscope⟩
      · rintro (⟨scope'', heq, -⟩ | ⟨-, hm⟩)
        · cases heq
          rfl
        · rw [hnone] at hm
          cases hm
    · rw [if_neg hsame]
      constructor
      · intro hm
        exact .inr ⟨by simp, hm⟩
      · rintro (⟨scope'', heq, hscope⟩ | ⟨-, hm⟩)
        · cases heq
          exact absurd ⟨hscope, rfl⟩ hsame
        · exact hm

/-- A text that was remembered already stays remembered. -/
lemma again (h : Follows templates history r) {name' : Text} {scope' : Option Text}
    {text' : Text} (hsome : r.cached? name' scope' = some text') :
    Follows templates (history ++ [⟨.get name' scope', .text (.ok text')⟩]) r where
  memory := h.memory
  stored key := by
    rw [storedText?_append_singleton]
    exact h.stored key
  cached name scope text := by
    rw [remembers_append_singleton, ← h.cached]
    constructor
    · intro hm
      exact .inr ⟨by simp, hm⟩
    · rintro (⟨scope'', heq, hscope⟩ | ⟨-, hm⟩)
      · cases heq
        rwa [Registry.cached?, ← hscope]
      · exact hm

end Follows

/-- A remembered text is the answer, and nothing changes. -/
lemma get_of_cached (h : r.cached? name scope = some text) :
    r.get name scope = (.ok text, r) := by
  rw [Registry.get, h]

/-- Without a remembered text the store is searched. -/
lemma outcome_get_of_not_cached (h : Follows templates history r)
    (hnone : r.cached? name scope = none) :
    (r.get name scope).1.outcome = searched templates history name scope := by
  rw [← outcome_resolve h.stored, Registry.get, hnone]
  dsimp only
  split
  · rfl
  · rfl

/-- One operation leads from a registry that holds what is called for to another one. -/
lemma Follows.perform (h : Follows templates history r) (operation : Operation) :
    Follows templates (history ++ [⟨operation, (r.perform operation).1⟩])
      (r.perform operation).2 := by
  cases operation with
  | put key text => exact h.put key text
  | clear => exact h.clear
  | isCached name scope => exact h.idle (by simp) (by simp) (by simp)
  | list scope => exact h.idle (by simp) (by simp) (by simp)
  | get name scope =>
    rw [Registry.perform]
    cases hc : r.cached? name scope with
    | some text =>
      rw [get_of_cached hc]
      exact h.again hc
    | none =>
      rw [Registry.get, hc]
      dsimp only
      cases hf : (r.store.resolve name scope).outcome with
      | ok text =>
        rw [hf]
        exact h.found hc
      | error missing =>
        rw [hf]
        exact h.idle (by simp) (by simp) (by simp)

/-- Each event of a run is the answer of a registry that holds what the events before it call
for. -/
lemma exists_of_run (h : Follows templates history r) {operations : List Operation}
    {before after : List Event} (hrun : r.run operations = before ++ event :: after) :
    ∃ r', Follows templates (history ++ before) r' ∧
      event.answer = (r'.perform event.operation).1 := by
  induction operations generalizing history r before with
  | nil => simp [Registry.run] at hrun
  | cons operation operations ih =>
    rw [Registry.run] at hrun
    cases before with
    | nil =>
      obtain ⟨rfl, -⟩ := List.cons.inj hrun
      exact ⟨r, by simpa using h, rfl⟩
    | cons first before =>
      obtain ⟨rfl, hrest⟩ := List.cons.inj hrun
      obtain ⟨r', hr', hanswer⟩ := ih (h.perform operation) hrest
      exact ⟨r', by simpa using hr', hanswer⟩

/-! ### Runs -/

/-- An operation that neither finds a text nor forgets leaves the remembered texts alone. -/
lemma cache_perform (r : Registry) {operation : Operation} (hclear : operation ≠ .clear)
    (hfound : ∀ text, (r.perform operation).1 ≠ .text (.ok text)) :
    (r.perform operation).2.cache = r.cache := by
  cases operation with
  | clear => exact absurd rfl hclear
  | get name scope =>
    rw [Registry.perform] at hfound ⊢
    cases hc : r.cached? name scope with
    | some text => rw [get_of_cached hc]
    | none =>
      rw [Registry.get, hc] at hfound ⊢
      dsimp only at hfound ⊢
      cases hf : (r.store.resolve name scope).outcome with
      | ok text =>
        rw [hf] at hfound
        exact absurd (congrArg Answer.text hf) (hfound text)
      | error missing => rfl
  | _ => rfl

/-- In every run a search answers what is remembered, or else what the store holds at that moment;
whether a template is remembered is answered accordingly; and what is remembered changes only when
a text is found or all texts are forgotten. -/
theorem answers_of_run (templates : List (Text × Text)) (operations : List Operation) :
    (∀ before name scope answer after,
      (⟨.memory templates, []⟩ : Registry).run operations =
        before ++ ⟨.get name scope, answer⟩ :: after →
      (∀ text, Remembers before name scope text → answer = .text (.ok text)) ∧
      ((∀ text, ¬ Remembers before name scope text) →
        answer = .text (searched templates before name scope))) ∧
    (∀ before name scope answer after,
      (⟨.memory templates, []⟩ : Registry).run operations =
        before ++ ⟨.isCached name scope, answer⟩ :: after →
      ∃ b, answer = .flag b ∧ (b = true ↔ ∃ text, Remembers before name scope text)) ∧
    (∀ (r : Registry) (operation : Operation), operation ≠ .clear →
      (∀ text, (r.perform operation).1 ≠ .text (.ok text)) →
        (r.perform operation).2.cache = r.cache) := by
  refine ⟨?_, ?_, ?_⟩
  -- What the registry has at the time of an answer follows the history up to there.
  · intro before name scope answer after hrun
    obtain ⟨r, hr, hanswer⟩ := exists_of_run (follows_nil templates) hrun
    rw [List.nil_append] at hr
    dsimp only at hanswer
    constructor
    · intro text hm
      rw [hanswer, Registry.perform, get_of_cached ((hr.cached _ _ _).mpr hm)]
      rfl
    · intro hno
      have hnone : r.cached? name scope = none := by
        rw [Option.eq_none_iff_forall_ne_some]
        intro text hc
        exact hno text ((hr.cached _ _ _).mp hc)
      rw [hanswer, Registry.perform, outcome_get_of_not_cached hr hnone]
  · intro before name scope answer after hrun
    obtain ⟨r, hr, hanswer⟩ := exists_of_run (follows_nil templates) hrun
    rw [List.nil_append] at hr
    refine ⟨r.isCached name scope, hanswer, ?_⟩
    rw [Registry.isCached, Option.isSome_iff_exists]
    exact exists_congr fun text => hr.cached name scope text
  · intro r operation hclear hfound
    exact cache_perform r hclear hfound

/-- The text of a template changes between two searches, and the second one does not see it. -/
theorem answers_of_run_changed :
    ∃ before answer after,
      (⟨.memory [("_templates/gold", "old")], []⟩ : Registry).run
          [.get "gold" (some "me/"), .put "me/_templates/gold" "new", .isCached "gold" (some "me/"),
            .get "gold" (some "me/"), .get "silver" none] =
        before ++ ⟨.get "gold" (some "me/"), answer⟩ :: after ∧
      Remembers before "gold" (some "me/") "old" ∧ answer = .text (.ok "old") ∧
      searched [("_templates/gold", "old")] before "gold" (some "me/") = .ok "new" ∧
      searched [("_templates/gold", "old")] before "silver" none =
        .error (.missing ⟨"silver", none, ["_templates/silver"]⟩) := by
  let before : List Event :=
    [⟨.get "gold" (some "me/"), .text (.ok "old")⟩, ⟨.put "me/_templates/gold" "new", .done⟩,
      ⟨.isCached "gold" (some "me/"), .flag true⟩]
  have hm : Remembers before "gold" (some "me/") "old" :=
    ⟨[], some "me/", _, rfl, rfl, by simp⟩
  have hrun := (answers_of_run [("_templates/gold", "old")]
    [.get "gold" (some "me/"), .put "me/_templates/gold" "new", .isCached "gold" (some "me/"),
      .get "gold" (some "me/"), .get "silver" none]).1
  exact ⟨before, _, _, rfl, hm, (hrun before "gold" (some "me/") _ _ rfl).1 "old" hm, rfl, rfl⟩

end TripProposal.Template
