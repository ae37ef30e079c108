import Lexis.Diagnostic.Queue
import Lexis.Lexer

/-!
# Lexing whole files

Everything that the lexer has to say about a file: its tokens up to the end or to the error that
ended the scan, and its diagnostics in source order, as many as the error limit admits.
-/

namespace Lexis

structure LexedFile where
  /-- The position of the source within the compilation. -/
  ordinal : Nat
  tokens : List Token
  diagnostics : List Diagnostic
  /-- The errors beyond the limit. -/
  droppedErrors : Nat
  /-- The error that ended the scan, if one did. -/
  fatal? : Option LexError
  pragmas : Pragmas

/-- The tokens up to the end of the input or to an error, that error, and the lexer then. -/
def Lexer.rest (l : Lexer) : List Token × Option LexError × Lexer :=
  match h : l.next with
  | (.error e, l') => ([], some e, l')
  | (.ok t, l') =>
    if hfinished : l'.isFinished then ([t], none, l')
    else
      have := remaining_next_lt h (by simpa using hfinished)
      let (tokens, error?, last) := l'.rest
      (t :: tokens, error?, last)
termination_by l.cursor.remaining

namespace LexedFile

def ofSource (source : Source) (config : LexerConfig) : LexedFile :=
  let (tokens, fatal?, l) := (Lexer.ofSource source config).rest
  let queue := l.diagnostics.foldl DiagnosticQueue.emit { errorLimit := config.errorLimit }
  { ordinal := source.ordinal
    tokens
    diagnostics := queue.flush.1
    droppedErrors := queue.dropped
    fatal?
    pragmas := l.pragmas }

def ofSources (sources : List Source) (config : LexerConfig) : List LexedFile :=
  sources.map (ofSource · config)

def hasErrors (f : LexedFile) : Bool := f.fatal?.isSome || f.diagnostics.any Diagnostic.isError

def kinds (f : LexedFile) : List TokenKind := f.tokens.map Token.kind

def summary (f : LexedFile) : String :=
  let fatal := match f.fatal? with
    | some e => "Some(" ++ e.summary ++ ")"
    | none => "None"
  "LexedFile \x7b ordinal: " ++ toString f.ordinal ++ ", tokens: " ++ toString f.tokens.length ++
    ", diagnostics: " ++ toString f.diagnostics.length ++ ", dropped_errors: " ++
    toString f.droppedErrors ++ ", fatal: " ++ fatal ++ ", .. \x7d"

end LexedFile

end Lexis
