import Lexis.CharClass.Runs
import Lexis.Diagnostic.Event
import Lexis.LexedFile
import Lexis.Lexer.Session
import Lexis.Lexer.Checked
import Lexis.Lexer.Converted
import Lexis.Literal
import Lexis.Proofs.Cursor.Plain
import Lexis.Proofs.Cursor.Runs
import Lexis.Proofs.Cursor.Refinement
import Lexis.Proofs.Location.Place
import Lexis.Proofs.Location.Tracker
import Lexis.Proofs.Cursor.Passage
import Lexis.Proofs.Scanner.Outcome
import Lexis.Proofs.Scanner.Words
import Lexis.Proofs.Scanner.Numbers
import Lexis.Proofs.Scanner.Quotes
import Lexis.Proofs.Scanner.Token
import Lexis.Proofs.Lexer.Calls
import Lexis.Proofs.Lexer.Driven
import Lexis.Proofs.Lexer.Tiling
import Lexis.Proofs.Diagnostic.Queue
import Lexis.Proofs.Lexer.Reports
import Lexis.Proofs.Scanner.Bodies
import Lexis.Proofs.Literal.Delimiters
import Lexis.Proofs.Literal.Writing
import Lexis.Proofs.Scanner.Kinds
import Lexis.Proofs.Lexer.Origin
import Lexis.Proofs.Literal.Agreement
import Lexis.Proofs.Lexer.Single
import Lexis.Proofs.Literal.RoundTrip
import Lexis.Proofs.Location.Shift
import Lexis.Proofs.Scanner.Passed
import Lexis.Proofs.Utf8.Parts
import Lexis.Proofs.Lexer.Steps
import Lexis.Proofs.Beside.Basic
import Lexis.Proofs.Beside.Numbers
import Lexis.Proofs.Beside.Words
import Lexis.Proofs.Beside.Quotes
import Lexis.Proofs.Beside.Openings
import Lexis.Proofs.Beside.Token
import Lexis.Proofs.Beside.Alone
import Lexis.Proofs.Beside.Lexer
import Lexis.Proofs.Beside.Calls
import Lexis.Proofs.Lexer.Resumption
import Lexis.Proofs.Lexer.Separation
import Lexis.Proofs.Lexer.Relexing
import Lexis.Proofs.Lexer.Following
import Lexis.Proofs.Beside.Interpolations
import Lexis.Proofs.Literal.Interpolated
import Lexis.Proofs.Location.Spelled
import Lexis.Proofs.Scanner.Lines
import Lexis.Proofs.Lexer.Newlines
import Lexis.Proofs.Lexer.Skipping
import Lexis.Proofs.Location.Prefix
import Lexis.Proofs.Lexer.Truncation
import Lexis.Proofs.Cursor.Cacheless
import Lexis.Proofs.Scanner.Cacheless
import Lexis.Proofs.Lexer.Checked
import Lexis.Proofs.Lexer.Twins
import Lexis.Proofs.Lexer.Settings
import Lexis.Proofs.Lexer.Ending
import Lexis.Number.Decimal
import Lexis.Proofs.Number.Grammar
import Lexis.Proofs.Number.Decimal
import Lexis.Proofs.Number.Value
import Lexis.Proofs.Scanner.Numerals
import Lexis.Proofs.Scanner.Faults
import Lexis.Proofs.Lexer.Converted
import Lexis.Proofs.Lexer.Numbers
import Lexis.Proofs.Literal.Escapes
import Lexis.Proofs.Literal.Faults
import Lexis.Proofs.Scanner.Closers
import Lexis.Proofs.Lexer.Outcomes
import Lexis.Proofs.Lexer.Closing
import Lexis.Proofs.Number.Beginning
import Lexis.Proofs.Scanner.Blame
import Lexis.Proofs.Lexer.Blame
import Lexis.Lexer.Nesting
import Lexis.Token.KeywordTable
import Lexis.Proofs.Lexer.Reached
import Lexis.Proofs.Scanner.Nesting
import Lexis.Proofs.Lexer.Comments
import Lexis.Proofs.Lexer.Operators
import Lexis.Proofs.Token.KeywordTable
import Lexis.Proofs.Lexer.Names
import Lexis.Proofs.Pragma.Occurrences
import Lexis.Proofs.Lexer.Pragmas
import Lexis.Cursor.Decoding
import Lexis.Proofs.Utf8.Encoding
import Lexis.Proofs.Cursor.Decoding
import Lexis.Proofs.Cursor.LookaheadCache
import Lexis.Proofs.Location.Columns
import Lexis.Proofs.Lexer.Columns
import Lexis.Proofs.Scanner.Shapes
import Lexis.Proofs.Lexer.Flags
