import TripProposal.Settings.Load

/-!
# The current settings

The current settings are loaded once per file and remembered, whatever happens to the file or to the
environment later, until they are forgotten on purpose. Loading a file explicitly has nothing to do
with what is remembered.
-/

namespace TripProposal

/-- Remembered settings, and how often they were asked for in vain. -/
structure SettingsCache where
  /-- Settings by the path of the file that they were loaded from. -/
  remembered : List (Path × Settings) := []
  /-- Number of loads, failed ones included. -/
  loads : Nat := 0

namespace SettingsCache

variable {Fault Document Config : Type} (library : SettingsLibrary Fault Document Config)

/-- The current settings, loaded unless they are remembered. -/
def current (cache : SettingsCache) (host : SettingsHost) : Except Fault Settings × SettingsCache :=
  match cache.remembered.lookup host.source with
  | some settings => (.ok settings, cache)
  | none =>
    match host.load library host.source with
    | .ok settings =>
      (.ok settings, ⟨(host.source, settings) :: cache.remembered, cache.loads + 1⟩)
    | .error fault => (.error fault, { cache with loads := cache.loads + 1 })

/-- Forget all settings. -/
def clear (cache : SettingsCache) : SettingsCache :=
  { cache with remembered := [] }

end SettingsCache

end TripProposal
