import Lexis.Diagnostic.Code
import Lexis.Span

/-!
# Diagnostics

Structured messages for the user, with the place that they are about and notes on further places.
-/

namespace Lexis

inductive Severity where
  | error
  | warning
  | note
  deriving DecidableEq, Inhabited

def Severity.name : Severity → String
  | .error => "error"
  | .warning => "warning"
  | .note => "note"

/-- A span in the coordinates of a reader. -/
structure Location where
  /-- The path of the file as shown. -/
  file : String
  /-- The line, counted from one. -/
  line : Nat
  /-- The column in code points, counted from zero. -/
  column : Nat
  len : Nat
  /-- The line that the span starts in, without its terminator. -/
  lineText : String
  deriving DecidableEq, Inhabited

/-- File, line and column; the column is shown counted from one, as editors do. -/
def Location.render (loc : Location) : String :=
  loc.file ++ ":" ++ toString loc.line ++ ":" ++ toString (loc.column + 1)

structure Note where
  message : String
  span? : Option Span := none
  location? : Option Location := none
  deriving DecidableEq, Inhabited

structure Diagnostic where
  code : ErrorCode
  severity : Severity
  span : Span
  message : String
  notes : List Note := []
  location? : Option Location := none
  deriving DecidableEq, Inhabited

/-- The text that precedes a message: its location, if it is known. -/
def renderPlace : Option Location → String
  | some loc => loc.render ++ ": "
  | none => ""

def Note.render (n : Note) : String :=
  renderPlace n.location? ++ "note: " ++ n.message

namespace Diagnostic

def isError (d : Diagnostic) : Bool := d.severity == .error

/-- The diagnostic as shown to the user, each note on an indented line of its own. -/
def render (d : Diagnostic) : String :=
  renderPlace d.location? ++ d.severity.name ++ "[" ++ d.code.identifier ++ "]: " ++ d.message ++
    String.join (d.notes.map fun n => "\n  " ++ n.render)

end Diagnostic

end Lexis
