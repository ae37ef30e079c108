import Lexis.CharClass
import Lexis.Lexer.Error
import Lexis.Token

/-!
# Decoding quoted literals

The text that a quoted literal denotes. Inside its delimiters, a backslash starts an escape: a
letter, a delimiter or a backslash, the number of a code point in hexadecimal, or a line terminator,
which is dropped with the backslash. In raw strings everything stands for itself.
-/

namespace Lexis

open CharClass

/-- Why a literal denotes no text. -/
inductive EscapeErrorKind where
  /-- A backslash before a code point that it does not escape. -/
  | invalidEscape (c : Char)
  /-- `\x` without two hexadecimal digits of an ASCII code. -/
  | invalidHexEscape
  /-- `\u` without the number of a code point between braces. -/
  | invalidUnicodeEscape
  /-- A character literal that denotes so many code points. -/
  | charLength (count : Nat)
  | invalidUtf8
  /-- A token of a kind that has no quotes. -/
  | notQuoted (kind : TokenKind)
  deriving DecidableEq, Inhabited

def EscapeErrorKind.message : EscapeErrorKind → String
  | .invalidEscape c => "Invalid escape sequence \"\\" ++ c.toString ++ "\""
  | .invalidHexEscape => "Invalid hex escape; expected \"\\x00\" through \"\\x7F\""
  | .invalidUnicodeEscape =>
    "Invalid unicode escape; expected \"\\u\x7b...\x7d\" with 1 to 6 hex digits"
  | .charLength count =>
    "Character literal must contain exactly one character, found " ++ toString count
  | .invalidUtf8 => "Source text is not valid UTF-8"
  | .notQuoted kind => kind.displayName ++ " has no text to decode"

structure EscapeError where
  span : Span
  kind : EscapeErrorKind
  deriving DecidableEq, Inhabited

def EscapeError.message (e : EscapeError) : String := e.kind.message

/-- What an escape denotes, and the text behind it. -/
structure Escape where
  /-- The code point denoted, if the escape is not dropped. -/
  denoted? : Option Char
  /-- The bytes behind the backslash that belong to the escape. -/
  width : Nat
  rest : List Char

namespace Escape

/-- The characters that a backslash and a single character can stand for. -/
def simple? (c : Char) : Option Char :=
  if c = 'n' then some '\n'
  else if c = 't' then some '\t'
  else if c = 'r' then some '\r'
  else if c = '0' then some '\x00'
  else if c = '\\' ∨ c = '"' ∨ c = '\'' ∨ c = '\x60' ∨ c = '\x7b' ∨ c = '\x7d' then some c
  else none

/-- The error of a hexadecimal escape at `start` that is wrong after so many bytes. -/
def badHex (start width : Nat) : EscapeError := ⟨.ofLength start width, .invalidHexEscape⟩

def badNumber (start width : Nat) : EscapeError := ⟨.ofLength start width, .invalidUnicodeEscape⟩

/-- The escape with two hexadecimal digits whose backslash stands at `start`, from behind its
letter. -/
def ofHex (start : Nat) : List Char → Except EscapeError Escape
  | [] => .error (badHex start 2)
  | first :: text =>
    match digitValue? first, text with
    | none, _ => .error (badHex start 2)
    | some _, [] => .error (badHex start 3)
    | some high, second :: rest =>
      match digitValue? second with
      | none => .error (badHex start 3)
      | some low =>
        if 0x7F < high * 16 + low then .error (badHex start 4)
        else .ok ⟨some (Char.ofNat (high * 16 + low)), 3, rest⟩

def isHexDigit (c : Char) : Bool := (digitValue? c).isSome

def numberOf (digits : List Char) : Nat :=
  digits.foldl (fun n c => n * 16 + (digitValue? c).getD 0) 0

/-- The escape with a number between braces whose backslash stands at `start`, from behind its
letter. -/
def ofNumber (start : Nat) : List Char → Except EscapeError Escape
  | '\x7b' :: inside =>
    let digits := inside.takeWhile isHexDigit
    if 6 < digits.length then .error (badNumber start 10)
    else
      match inside.dropWhile isHexDigit with
      | '\x7d' :: rest =>
        if digits.isEmpty then .error (badNumber start 3)
        else if (numberOf digits).isValidChar then
          .ok ⟨some (Char.ofNat (numberOf digits)), digits.length + 3, rest⟩
        else .error (badNumber start (digits.length + 4))
      | _ => .error (badNumber start (digits.length + 3))
  | _ => .error (badNumber start 2)

/-- The line terminator that begins with `c`, as a dropped escape: a carriage return takes a line
feed along. -/
def ofLineEnd (c : Char) (rest : List Char) : Escape :=
  match c, rest with
  | '\r', '\n' :: behind => ⟨none, 2, behind⟩
  | _, _ => ⟨none, c.utf8Size, rest⟩

/-- The escape at the beginning of a text that follows the backslash at `start`. -/
def read (start : Nat) : List Char → Except EscapeError Escape
  | [] => .error ⟨.ofLength start 1, .invalidEscape '\\'⟩
  | c :: rest =>
    match simple? c with
    | some d => .ok ⟨some d, 1, rest⟩
    | none =>
      if isLineTerminator c then .ok (ofLineEnd c rest)
      else if c = 'x' then ofHex start rest
      else if c = 'u' then ofNumber start rest
      else .error ⟨.ofLength start (1 + c.utf8Size), .invalidEscape c⟩

theorem length_ofHex_le {start : Nat} {text : List Char} {e : Escape}
    (h : ofHex start text = .ok e) : e.rest.length ≤ text.length := by
  unfold ofHex at h
  split at h
  · cases h
  · split at h
    · cases h
    · cases h
    · split at h
      · cases h
      · split at h
        · cases h
        · cases h
          simp only [List.length_cons]
          omega

theorem length_ofNumber_le {start : Nat} {text : List Char} {e : Escape}
    (h : ofNumber start text = .ok e) : e.rest.length ≤ text.length := by
  unfold ofNumber at h
  split at h
  · rename_i inside
    simp only at h
    split at h
    · cases h
    · split at h
      · rename_i rest hrest
        have hle := (List.dropWhile_suffix (l := inside) isHexDigit).length_le
        rw [hrest] at hle
        split at h
        · cases h
        · split at h
          · cases h
            simp only [List.length_cons] at hle ⊢
            omega
          · cases h
      · cases h
  · cases h

theorem length_ofLineEnd_le (c : Char) (rest : List Char) :
    (ofLineEnd c rest).rest.length ≤ rest.length := by
  unfold ofLineEnd
  split
  · simp only [List.length_cons]
    omega
  · exact Nat.le_refl _

theorem length_read_le {start : Nat} {text : List Char} {e : Escape}
    (h : read start text = .ok e) : e.rest.length ≤ text.length := by
  unfold read at h
  split at h
  · cases h
  · rename_i c rest
    simp only [List.length_cons]
    refine Nat.le_succ_of_le ?_
    split at h
    · cases h
      exact Nat.le_refl _
    · split at h
      · cases h
        exact length_ofLineEnd_le c rest
      · split at h
        · exact length_ofHex_le h
        · split at h
          · exact length_ofNumber_le h
          · cases h

end Escape

/-- The text denoted by the body of a literal that starts at the offset. -/
def unescape (offset : Nat) : List Char → Except EscapeError (List Char)
  | [] => .ok []
  | c :: text =>
    if c = '\\' then
      match h : Escape.read offset text with
      | .error e => .error e
      | .ok escape =>
        have := Escape.length_read_le h
        (unescape (offset + 1 + escape.width) escape.rest).map (escape.denoted?.toList ++ ·)
    else (unescape (offset + c.utf8Size) text).map (c :: ·)
termination_by text => text.length

/-- The number of number signs from the offset on. -/
def hashesAt (source : ByteArray) (offset : Nat) : Nat :=
  if h : offset < source.size then
    if source[offset] = 0x23 then hashesAt source (offset + 1) + 1 else 0
  else 0
termination_by source.size - offset

namespace Token

/-- The lengths of the delimiters of a quoted token. -/
def delimiters (t : Token) (source : ByteArray) : Nat × Nat :=
  if t.flags.raw then
    let hashes := hashesAt source (t.offset + 1)
    (hashes + 2, hashes + 1)
  else if t.flags.multiLine && source[t.offset]? == some 0x22 then (3, 3)
  else (1, 1)

/-- What stands between the delimiters of a quoted token. -/
def bodySpan (t : Token) (source : ByteArray) : Span :=
  let (opening, closing) := t.delimiters source
  let start := min (t.offset + opening) t.stop
  ⟨start, max (t.stop - closing) start⟩

/-- The text that a quoted token denotes. A character literal has to denote a single code point. -/
def decode (t : Token) (source : ByteArray) : Except EscapeError String :=
  if !t.kind.isQuoted then .error ⟨t.span, .notQuoted t.kind⟩
  else
    let content := t.bodySpan source
    match (content.slice? source).bind String.fromUTF8? with
    | none => .error ⟨t.span, .invalidUtf8⟩
    | some text =>
      let decoded := if t.flags.raw then .ok text.toList else unescape content.start text.toList
      match decoded with
      | .error e => .error e
      | .ok chars =>
        if t.kind = .charLiteral ∧ chars.length ≠ 1 then .error ⟨t.span, .charLength chars.length⟩
        else .ok (String.ofList chars)

end Token

end Lexis
