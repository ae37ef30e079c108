import Lexis.CharClass
import Lexis.Span
import Lexis.Utf8

/-!
# Pragmas

Arguments for tools, found in the text of comments. A pragma is a keyword and the run of
non-whitespace code points behind it; a keyword without an argument is nothing.
-/

namespace Lexis

open CharClass

/-- The argument of a pragma and where it stands in the source. -/
structure PragmaArgument where
  text : String
  span : Span
  deriving DecidableEq, Inhabited

/-- What separates the argument of a pragma from its keyword. -/
inductive PragmaGap where
  /-- Nothing: the argument starts right behind the keyword. -/
  | adjacent
  /-- Whitespace, at least one code point of it. -/
  | spaced
  deriving DecidableEq, Inhabited

/-- The text behind a keyword, if the text begins with the keyword. -/
def afterKeyword? : (keyword text : List Char) → Option (List Char)
  | [], text => some text
  | k :: keyword, c :: text => if k = c then afterKeyword? keyword text else none
  | _ :: _, [] => none

namespace PragmaArgument

/-- The argument at the beginning of a text that starts at the offset. -/
def first? (offset : Nat) (text : List Char) : Option PragmaArgument :=
  let word := text.takeWhile (!isWhitespace ·)
  if word.isEmpty then none
  else some ⟨String.ofList word, .ofLength offset (Utf8.size word)⟩

/-- The argument of the pragma that the text, which starts at the offset, begins with. -/
def read? (gap : PragmaGap) (offset : Nat) (keyword text : List Char) : Option PragmaArgument :=
  match afterKeyword? keyword text with
  | none => none
  | some rest =>
    let offset := offset + Utf8.size keyword
    match gap with
    | .adjacent => first? offset rest
    | .spaced =>
      let blank := rest.takeWhile isWhitespace
      if blank.isEmpty then none
      else first? (offset + Utf8.size blank) (rest.dropWhile isWhitespace)

end PragmaArgument

/-- The pragmas of a comment, or of all comments so far. -/
structure Pragmas where
  sourceMappingUrl? : Option PragmaArgument := none
  edition? : Option PragmaArgument := none
  deriving DecidableEq, Inhabited

namespace Pragmas

/-- The pragmas in force after a comment: its own, and the former ones where it has none. -/
def update (former found : Pragmas) : Pragmas where
  sourceMappingUrl? := found.sourceMappingUrl?.or former.sourceMappingUrl?
  edition? := found.edition?.or former.edition?

/-- The keyword that stands behind the number sign of `//#` and `/*#`. -/
def sourceMappingUrlKeyword : List Char := " sourceMappingURL=".toList

/-- The keyword that stands behind an at sign anywhere in a comment. -/
def editionKeyword : List Char := "edition".toList

/-- The address of the source map, if the comment begins with it. -/
def findSourceMappingUrl? (start : Nat) : List Char → Option PragmaArgument
  | _ :: _ :: '#' :: text => PragmaArgument.read? .adjacent (start + 3) sourceMappingUrlKeyword text
  | _ => none

/-- The argument of the first edition pragma in a text that starts at the offset. -/
def findEdition? (offset : Nat) : List Char → Option PragmaArgument
  | [] => none
  | c :: text =>
    let here := if c = '@' then PragmaArgument.read? .spaced (offset + 1) editionKeyword text
      else none
    match here with
    | some arg => some arg
    | none => findEdition? (offset + c.utf8Size) text

/-- The pragmas in a comment that starts at the offset; its text includes the opening, but not the
closing delimiter. -/
def ofComment (start : Nat) (text : List Char) : Pragmas where
  sourceMappingUrl? := findSourceMappingUrl? start text
  edition? := findEdition? start text

end Pragmas

end Lexis
