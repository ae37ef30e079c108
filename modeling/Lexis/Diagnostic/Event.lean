import Lexis.Diagnostic

/-!
# Log events

A diagnostic as an event for a log, at the level that its severity calls for.
-/

namespace Lexis

inductive LogLevel where
  | error
  | warn
  | info
  deriving DecidableEq, Inhabited

def LogLevel.name : LogLevel → String
  | .error => "ERROR"
  | .warn => "WARN"
  | .info => "INFO"

structure LogEvent where
  level : LogLevel
  code : ErrorCode
  message : String
  deriving DecidableEq, Inhabited

def Severity.logLevel : Severity → LogLevel
  | .error => .error
  | .warning => .warn
  | .note => .info

def Diagnostic.logEvent (d : Diagnostic) : LogEvent := ⟨d.severity.logLevel, d.code, d.render⟩

end Lexis
