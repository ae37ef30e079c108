import Lexis.Diagnostic

/-!
# Diagnostic queues

A queue keeps the diagnostics of one file and hands them back in source order. Errors beyond a limit
are counted but not kept; warnings and notes always are.
-/

namespace Lexis

structure DiagnosticQueue where
  /-- The number of errors kept at most, without bound if zero. -/
  errorLimit : Nat := 10
  /-- What is kept, in order of arrival. -/
  diagnostics : Array Diagnostic := #[]
  errorCount : Nat := 0
  /-- The errors refused because the limit had been reached. -/
  dropped : Nat := 0

namespace DiagnosticQueue

def limitReached (q : DiagnosticQueue) : Bool :=
  0 < q.errorLimit && q.errorLimit ≤ q.errorCount

def hasErrors (q : DiagnosticQueue) : Bool := 0 < q.errorCount

def emit (q : DiagnosticQueue) (d : Diagnostic) : DiagnosticQueue :=
  if d.isError then
    if q.limitReached then { q with dropped := q.dropped + 1 }
    else { q with diagnostics := q.diagnostics.push d, errorCount := q.errorCount + 1 }
  else { q with diagnostics := q.diagnostics.push d }

/-- Whether the first diagnostic starts, or else ends, no later than the second. -/
def precedes (a b : Diagnostic) : Bool :=
  a.span.start < b.span.start || (a.span.start == b.span.start && a.span.stop ≤ b.span.stop)

/-- Takes out what is kept, ordered by position; diagnostics at the same position keep their
order. -/
def flush (q : DiagnosticQueue) : List Diagnostic × DiagnosticQueue :=
  (q.diagnostics.toList.mergeSort precedes, { errorLimit := q.errorLimit })

end DiagnosticQueue

end Lexis
