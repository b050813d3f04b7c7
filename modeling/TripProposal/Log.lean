import TripProposal.Text.CodePoint

/-!
# Session log

What the program reports while it works: lines with a level, in order. `Logged` is the outcome of
work that reports and may fail; what was reported before a failure stays reported.
-/

namespace TripProposal

/-- How important a report is. -/
inductive LogLevel
  | debug
  | info
  | success
  | warning
deriving DecidableEq

/-- The level in capital letters. -/
def LogLevel.name : LogLevel → Text
  | .debug => "DEBUG"
  | .info => "INFO"
  | .success => "SUCCESS"
  | .warning => "WARNING"

/-- One report. -/
structure LogEntry where
  level : LogLevel
  message : Text
deriving DecidableEq

/-- Reports in order. -/
abbrev Log := List LogEntry

/-- The outcome of work that reports and may fail. -/
structure Logged (ε α : Type) where
  log : Log
  outcome : Except ε α

namespace Logged

variable {ε α β : Type}

/-- Work that yields a value and reports nothing. -/
def ok (a : α) : Logged ε α := ⟨[], .ok a⟩

/-- Work that fails at once. -/
def error (e : ε) : Logged ε α := ⟨[], .error e⟩

/-- Work that reports. -/
def report (log : Log) : Logged ε Unit := ⟨log, .ok ()⟩

/-- Work without reports. -/
def ofExcept (outcome : Except ε α) : Logged ε α := ⟨[], outcome⟩

/-- Work that goes on with what other work yields. -/
def andThen (work : Logged ε α) (next : α → Logged ε β) : Logged ε β :=
  match work.outcome with
  | .ok a => ⟨work.log ++ (next a).log, (next a).outcome⟩
  | .error e => ⟨work.log, .error e⟩

instance : Monad (Logged ε) where
  pure := ok
  bind := andThen

/-- The same work with its failures put into other words. -/
def mapError {ε' : Type} (f : ε → ε') (work : Logged ε α) : Logged ε' α :=
  ⟨work.log, work.outcome.mapError f⟩

end Logged

end TripProposal
