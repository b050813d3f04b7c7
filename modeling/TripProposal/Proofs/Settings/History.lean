import Mathlib.Data.List.Basic
import Mathlib.Tactic.Common
import TripProposal.Proofs.Histories
import TripProposal.Settings.Cache
import TripProposal.Settings.File

/-!
# Histories of settings

Files are written and the environment changes while settings are asked for, loaded explicitly and
forgotten. What the current settings are then depends on the first time that they were found since
they were last forgotten, and on nothing that happened later. A history is the list of operations
so far, each with what it found and answered.
-/

namespace TripProposal.SettingsCache

/-! ### Operations -/

/-- An operation of a program that uses settings. -/
inductive Operation
  | write (path text : Text)
  | setVariable (name : Text) (value : Option Text)
  /-- Load settings explicitly, from a file or from where the environment says. -/
  | load (path : Option Text)
  | current
  | clear
deriving DecidableEq

/-- Whether settings are loaded explicitly. -/
def Operation.isLoad : Operation → Bool
  | .load _ => true
  | _ => false

/-- What an operation answers. -/
inductive Answer (Fault : Type)
  | done
  | settings (loaded : Except Fault Settings)

/-- An operation that took place. -/
structure Event (Fault : Type) where
  /-- The files and the environment that it met. -/
  host : SettingsHost
  operation : Operation
  answer : Answer Fault

/-- A running program: what it depends on and what it remembers. -/
structure Process where
  host : SettingsHost
  cache : SettingsCache := {}

variable {Fault Document Config : Type} (library : SettingsLibrary Fault Document Config)

namespace Process

/-- Perform an operation. -/
def perform (p : Process) : Operation → Answer Fault × Process
  | .write path text => (.done, { p with host := p.host.writeFile path text })
  | .setVariable name value => (.done, { p with host := p.host.setVariable name value })
  | .load (some path) => (.settings (p.host.load library (Path.parse path)), p)
  | .load none => (.settings (p.host.load library p.host.source), p)
  | .current =>
    (.settings (p.cache.current library p.host).1,
      { p with cache := (p.cache.current library p.host).2 })
  | .clear => (.done, { p with cache := p.cache.clear })

/-- The events of operations one after the other. -/
def run (p : Process) : List Operation → List (Event Fault)
  | [] => []
  | operation :: rest =>
    ⟨p.host, operation, (p.perform library operation).1⟩ :: run (p.perform library operation).2 rest

/-- The program after operations. -/
def after (p : Process) (operations : List Operation) : Process :=
  operations.foldl (fun p operation => (p.perform library operation).2) p

end Process

/-! ### What a history calls for -/

/-- Nothing was forgotten by an event. -/
def Event.Keeps (event : Event Fault) : Prop :=
  event.operation ≠ .clear

/-- The current settings were asked for and found while the environment named a source. -/
def Event.Finds (event : Event Fault) (source : Path) (settings : Settings) : Prop :=
  event.operation = .current ∧ event.host.source = source ∧ event.answer = .settings (.ok settings)

/-- The current settings were found in a source since they were last forgotten. -/
def Found (source : Path) (history : List (Event Fault)) : Prop :=
  Since Event.Keeps (fun _ event => ∃ settings, event.Finds source settings) history

/-- The settings were loaded from a source when the current settings were first found there since they
were last forgotten. -/
def FirstFound (source : Path) (settings : Settings) (history : List (Event Fault)) : Prop :=
  Since Event.Keeps (fun before event => ¬ Found source before ∧ event.Finds source settings ∧
    event.host.load library source = .ok settings) history

variable {library} {history : List (Event Fault)} {event : Event Fault} {source : Path}
  {settings : Settings} {cache : SettingsCache} {p : Process}

/-- What was found before is found still, unless it was forgotten. -/
lemma FirstFound.append (h : FirstFound library source settings history)
    (hkept : event.Keeps) : FirstFound library source settings (history ++ [event]) :=
  since_append_singleton.mpr (.inr ⟨hkept, h⟩)

/-- An event that finds nothing in a source adds nothing. -/
lemma not_found_append (h : ¬ Found source history)
    (hfinds : ∀ settings, ¬ event.Finds source settings) : ¬ Found source (history ++ [event]) := by
  intro hfound
  rcases since_append_singleton.mp hfound with ⟨settings, hevent⟩ | ⟨-, hbefore⟩
  · exact hfinds settings hevent
  · exact h hbefore

/-! ### What is remembered -/

/-- What is remembered is what a history calls for: by source, the settings that were found there
first. -/
structure Follows (library : SettingsLibrary Fault Document Config) (history : List (Event Fault))
    (cache : SettingsCache) : Prop where
  first : ∀ source settings,
    cache.remembered.lookup source = some settings → FirstFound library source settings history
  /-- Sources of which nothing is remembered. -/
  missing : ∀ source, cache.remembered.lookup source = none → ¬ Found source history

lemma follows_nil : Follows library [] {} where
  first _ _ h := nomatch h
  missing _ _ := not_since_nil

/-- A cleared cache remembers nothing. -/
lemma follows_clear (history : List (Event Fault)) (hclear : event.operation = .clear) :
    Follows library (history ++ [event]) cache.clear where
  first _ _ h := nomatch h
  missing source _ hfound := by
    rcases since_append_singleton.mp hfound with ⟨settings, hcurrent, -⟩ | ⟨hkept, -⟩
    · rw [hclear] at hcurrent
      cases hcurrent
    · exact hkept hclear

namespace Follows

/-- An event that neither forgets nor finds what is not remembered leaves what is called for. -/
lemma idle (h : Follows library history cache) (hkept : event.Keeps)
    (hfinds : ∀ source settings, event.Finds source settings →
      cache.remembered.lookup source ≠ none) (loads : Nat) :
    Follows library (history ++ [event]) ⟨cache.remembered, loads⟩ where
  first source settings hlookup := (h.first source settings hlookup).append hkept
  missing source hlookup :=
    not_found_append (h.missing source hlookup)
      fun settings hevent => hfinds source settings hevent hlookup

/-- Settings that are loaded from a source for the first time are remembered. -/
lemma found (h : Follows library history cache) (hevent : event.Finds source settings)
    (hload : event.host.load library source = .ok settings)
    (hnone : cache.remembered.lookup source = none) (loads : Nat) :
    Follows library (history ++ [event]) ⟨(source, settings) :: cache.remembered, loads⟩ where
  first other known hlookup := by
    by_cases hother : other = source
    · subst hother
      obtain rfl : settings = known := by simpa using hlookup
      exact since_append_singleton.mpr (.inl ⟨h.missing other hnone, hevent, hload⟩)
    · rw [List.lookup_cons, beq_eq_false_iff_ne.mpr hother] at hlookup
      refine (h.first other known hlookup).append ?_
      rw [Event.Keeps, hevent.1]
      decide
  missing other hlookup := by
    have hother : other ≠ source := by
      rintro rfl
      simp at hlookup
    rw [List.lookup_cons, beq_eq_false_iff_ne.mpr hother] at hlookup
    refine not_found_append (h.missing other hlookup) ?_
    rintro known ⟨-, hsource, -⟩
    exact hother (hsource.symm.trans hevent.2.1)

end Follows

/-- Remembered settings are answered, and nothing is loaded. -/
lemma current_of_lookup {host : SettingsHost}
    (h : cache.remembered.lookup host.source = some settings) :
    cache.current library host = (.ok settings, cache) := by
  rw [current, h]

/-- Settings that are not remembered are loaded. -/
lemma current_of_lookup_eq_none {host : SettingsHost}
    (h : cache.remembered.lookup host.source = none) :
    (cache.current library host).1 = host.load library host.source ∧
      (cache.current library host).2.loads = cache.loads + 1 := by
  rw [current, h]
  dsimp only
  cases host.load library host.source with
  | ok settings => exact ⟨rfl, rfl⟩
  | error fault => exact ⟨rfl, rfl⟩

/-- Settings that cannot be loaded change nothing that is remembered. -/
lemma remembered_of_error {host : SettingsHost} {fault : Fault}
    (h : (cache.current library host).1 = .error fault) :
    (cache.current library host).2.remembered = cache.remembered := by
  unfold current at h ⊢
  cases hlookup : cache.remembered.lookup host.source with
  | some settings => rfl
  | none =>
    rw [hlookup] at h
    dsimp only at h ⊢
    cases hload : host.load library host.source with
    | ok settings =>
      rw [hload] at h
      cases h
    | error fault' => rfl

/-! ### Runs -/

/-- Asking for the current settings keeps what is remembered in step with the history. -/
lemma Follows.current (h : Follows library history cache) (host : SettingsHost) :
    Follows library (history ++ [⟨host, .current, .settings (cache.current library host).1⟩])
      (cache.current library host).2 := by
  cases hlookup : cache.remembered.lookup host.source with
  | some settings =>
    rw [current_of_lookup hlookup]
    refine h.idle (by simp [Event.Keeps]) ?_ cache.loads
    rintro source known ⟨-, rfl, -⟩
    rw [hlookup]
    exact Option.some_ne_none settings
  | none =>
    rw [SettingsCache.current, hlookup]
    dsimp only
    cases hload : host.load library host.source with
    | ok settings => exact h.found ⟨rfl, rfl, rfl⟩ hload hlookup _
    | error fault =>
      refine h.idle (by simp [Event.Keeps]) ?_ _
      rintro source known ⟨-, -, hanswer⟩
      cases hanswer

/-- One operation keeps what is remembered in step with the history. -/
lemma Follows.perform (h : Follows library history p.cache) (operation : Operation) :
    Follows library (history ++ [⟨p.host, operation, (p.perform library operation).1⟩])
      (p.perform library operation).2.cache := by
  cases operation with
  | current => exact h.current p.host
  | clear => exact follows_clear history rfl
  | load path => cases path <;> exact h.idle (by simp [Event.Keeps]) (by simp [Event.Finds]) _
  | _ => exact h.idle (by simp [Event.Keeps]) (by simp [Event.Finds]) _

/-- Operations keep what is remembered in step with the history. -/
lemma Follows.run (h : Follows library history p.cache) (operations : List Operation) :
    Follows library (history ++ p.run library operations) (p.after library operations).cache := by
  induction operations generalizing history p with
  | nil => simpa [Process.run, Process.after] using h
  | cons operation operations ih =>
    simpa [Process.run, Process.after] using ih (h.perform operation)

/-- An explicit load leaves the program as it is. -/
lemma perform_of_isLoad {operation : Operation} (h : operation.isLoad = true) :
    (p.perform library operation).2 = p := by
  cases operation with
  | load path => cases path <;> rfl
  | _ => cases h

/-- Without its explicit loads a run is the same in everything else. -/
lemma run_filter_isLoad (p : Process) (operations : List Operation) :
    p.run library (operations.filter (!·.isLoad)) =
      (p.run library operations).filter (!·.operation.isLoad) := by
  induction operations generalizing p with
  | nil => rfl
  | cons operation operations ih =>
    cases hload : operation.isLoad with
    | true => simp [Process.run, hload, perform_of_isLoad hload, ih]
    | false => simp [Process.run, hload, ih]

/-- The current settings are those that were loaded when they were first found since they were last
forgotten, while the environment named the same source; if they were not found yet, they are loaded
now. What cannot be loaded changes nothing that is remembered, and explicit loads change no other
answer. All this holds whatever the library makes of files. -/
theorem current_of_history (library : SettingsLibrary Fault Document Config) (host : SettingsHost)
    (operations : List Operation) :
    let history := (⟨host, {}⟩ : Process).run library operations
    let p := (⟨host, {}⟩ : Process).after library operations
    (Found p.host.source history → ∃ settings, FirstFound library p.host.source settings history ∧
      p.perform library .current = (.settings (.ok settings), p)) ∧
    (¬ Found p.host.source history →
      (p.perform library .current).1 = .settings (p.host.load library p.host.source) ∧
      (p.perform library .current).2.cache.loads = p.cache.loads + 1) ∧
    (∀ fault, (p.perform library .current).1 = .settings (.error fault) →
      (p.perform library .current).2.cache.remembered = p.cache.remembered) ∧
    (∀ more, p.run library (more.filter (!·.isLoad)) =
      (p.run library more).filter (!·.operation.isLoad)) := by
  intro history p
  have hnil : Follows library [] (⟨host, {}⟩ : Process).cache := follows_nil
  -- The invariant of the cache, carried through the whole run.
  have hfollows : Follows library history p.cache := by
    simpa using hnil.run operations
  refine ⟨?_, ?_, ?_, run_filter_isLoad p⟩
  · intro hfound
    cases hlookup : p.cache.remembered.lookup p.host.source with
    | none => exact absurd hfound (hfollows.missing _ hlookup)
    | some settings =>
      refine ⟨settings, hfollows.first _ _ hlookup, ?_⟩
      rw [Process.perform, current_of_lookup hlookup]
  · intro hnot
    have hlookup : p.cache.remembered.lookup p.host.source = none := by
      rw [Option.eq_none_iff_forall_ne_some]
      intro settings hlookup
      obtain ⟨before, event, after, heq, ⟨-, hevent, -⟩, hkept⟩ := hfollows.first _ _ hlookup
      exact hnot ⟨before, event, after, heq, ⟨settings, hevent⟩, hkept⟩
    obtain ⟨hanswer, hloads⟩ := current_of_lookup_eq_none hlookup
    exact ⟨congrArg Answer.settings hanswer, hloads⟩
  · intro fault hanswer
    exact remembered_of_error (Answer.settings.inj hanswer)

/-- The file that comes with the program is emptied, read as the current settings and spoiled
afterwards. -/
def spoiledFile : List Operation :=
  [.write "/config/render_settings.yaml" "", .current, .write "/config/render_settings.yaml" "[]",
    .load none]

/-- What was read before the file was spoiled is still current, until it is forgotten. -/
theorem current_of_history_spoiledFile :
    let p := (⟨{}, {}⟩ : Process).after .json spoiledFile
    let cleared := (⟨{}, {}⟩ : Process).after .json (spoiledFile ++ [.clear])
    Found p.host.source ((⟨{}, {}⟩ : Process).run .json spoiledFile) ∧
      p.perform .json .current = (.settings (.ok {}), p) ∧
      ¬ Found cleared.host.source ((⟨{}, {}⟩ : Process).run .json (spoiledFile ++ [.clear])) ∧
      (cleared.perform .json .current).1 = .settings (.error .listAtTop) ∧
      (cleared.perform .json .current).2.cache.remembered = cleared.cache.remembered := by
  intro p cleared
  let history := (⟨{}, {}⟩ : Process).run .json spoiledFile
  have hfound : Found p.host.source history :=
    ⟨history.take 1, history[1], history.drop 2, rfl, ⟨{}, rfl, rfl, rfl⟩,
      by simp [history, spoiledFile, Process.run, Event.Keeps]⟩
  obtain ⟨settings, -, hcurrent⟩ := (current_of_history .json {} spoiledFile).1 hfound
  have hdefaults : (p.perform .json .current).1 = .settings (.ok {}) := rfl
  have hnot : ¬ Found cleared.host.source
      ((⟨{}, {}⟩ : Process).run .json (spoiledFile ++ [.clear])) := by
    intro (h : Found _ (history ++ [_]))
    rcases since_append_singleton.mp h with ⟨_, hclear, -⟩ | ⟨hclear, -⟩
    · cases hclear
    · exact hclear rfl
  obtain ⟨-, hload, hfailed, -⟩ := current_of_history .json {} (spoiledFile ++ [.clear])
  have hspoiled : cleared.host.load .json cleared.host.source = .error .listAtTop := rfl
  have hanswer := (hload hnot).1
  rw [hspoiled] at hanswer
  have hsame := congrArg Prod.snd hcurrent
  exact ⟨hfound, Prod.ext hdefaults hsame, hnot, hanswer, hfailed _ hanswer⟩

end TripProposal.SettingsCache
