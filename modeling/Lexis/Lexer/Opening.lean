import Lexis.Lexer.Comment
import Lexis.Lexer.Digits
import Lexis.Lexer.Name
import Lexis.Lexer.Quoted

/-!
# How tokens begin

The first four code points of a token tell what it is. `Opening.of` reads that off them, and
`Opening.scanner` is the scanner that goes on from there.
-/

namespace Lexis

open CharClass

inductive Opening where
  /-- Two slashes, exactly three of them if `doc`. -/
  | lineComment (doc : Bool)
  /-- A slash and an asterisk, with an exclamation mark behind them if `legal`. -/
  | blockComment (legal : Bool)
  | string
  | tripleString
  | character
  | template
  | rawString
  | escapedName
  | number
  | basedNumber (base : Base)
  | leadingZero
  | operator (op : Operator)
  | name
  | unexpected (c : Char)
  deriving DecidableEq

namespace Opening

/-- The opening at a zero that is followed by `next`. -/
def ofZero (next : Char) : Opening :=
  match Base.ofLetter? next with
  | some base => .basedNumber base
  | none => if next.isDigit || next == '_' then .leadingZero else .number

/-- The opening at punctuation, a name, or anything else. -/
def ofOther (c : Char) (ahead : List Char) : Opening :=
  match Operator.recognize? (c :: ahead) with
  | some op => .operator op
  | none => if isIdentStart c then .name else .unexpected c

/-- What begins with `c` where `ahead` follows; three code points of that are enough. -/
def of (c : Char) (ahead : List Char) : Opening :=
  match c, ahead with
  | '/', '/' :: rest => .lineComment (rest[0]? == some '/' && rest[1]? != some '/')
  | '/', '*' :: rest => .blockComment (rest[0]? == some '!')
  | '"', '"' :: '"' :: _ => .tripleString
  | '"', _ => .string
  | '\'', _ => .character
  | '\x60', _ => .template
  | 'r', '"' :: _ => .rawString
  | 'r', '#' :: '"' :: _ => .rawString
  | 'r', '#' :: '#' :: _ => .rawString
  | 'r', '#' :: next :: _ => if isIdentStart next then .escapedName else .name
  | '0', next :: _ => ofZero next
  | '.', next :: _ => if next.isDigit then .number else ofOther c ahead
  | _, _ => if c.isDigit then .number else ofOther c ahead

def scanner : Opening → Scanner Lexeme
  | .lineComment doc => Scanner.lineComment doc
  | .blockComment legal => Scanner.blockComment legal
  | .string => Scanner.string
  | .tripleString => Scanner.tripleString
  | .character => Scanner.character
  | .template => Scanner.template
  | .rawString => Scanner.rawString
  | .escapedName => Scanner.escapedName
  | .number => Scanner.decimalNumber
  | .basedNumber base => Scanner.basedNumber base
  | .leadingZero => Scanner.leadingZero
  | .operator op => Scanner.operator op
  | .name => Scanner.name
  | .unexpected c => Scanner.unexpected c

/-- What has been seen where an opening is found. -/
inductive Found : Char → List Char → Opening → Prop
  | lineComment {rest : List Char} :
      Found '/' ('/' :: rest) (.lineComment (rest[0]? == some '/' && rest[1]? != some '/'))
  | blockComment {rest : List Char} :
      Found '/' ('*' :: rest) (.blockComment (rest[0]? == some '!'))
  | tripleString {rest : List Char} : Found '"' ('"' :: '"' :: rest) .tripleString
  | string {ahead : List Char} (single : ¬ ['"', '"'] <+: ahead) : Found '"' ahead .string
  | character {ahead : List Char} : Found '\'' ahead .character
  | template {ahead : List Char} : Found '\x60' ahead .template
  | rawString {ahead : List Char}
      (delimiter : ['"'] <+: ahead ∨ ['#', '"'] <+: ahead ∨ ['#', '#'] <+: ahead) :
      Found 'r' ahead .rawString
  | escapedName {next : Char} {rest : List Char} (start : isIdentStart next = true) :
      Found 'r' ('#' :: next :: rest) .escapedName
  | basedNumber {next : Char} {rest : List Char} {base : Base}
      (letter : Base.ofLetter? next = some base) : Found '0' (next :: rest) (.basedNumber base)
  | leadingZero {next : Char} {rest : List Char} (second : next.isDigit = true ∨ next = '_') :
      Found '0' (next :: rest) .leadingZero
  | number {c : Char} {ahead : List Char}
      (begins : c.isDigit = true ∨ c = '.' ∧ ahead.head?.any Char.isDigit = true)
      (zero : ∀ next rest, c = '0' → ahead = next :: rest → next ≠ '_' ∧ next.isDigit = false) :
      Found c ahead .number
  | operator {c : Char} {ahead : List Char} {op : Operator}
      (spelled : Operator.recognize? (c :: ahead) = some op)
      (dot : c = '.' → ahead.head?.any Char.isDigit = false)
      (slash : c = '/' → ahead.head? ≠ some '/' ∧ ahead.head? ≠ some '*') :
      Found c ahead (.operator op)
  | name {c : Char} {ahead : List Char} (start : isIdentStart c = true) : Found c ahead .name
  | unexpected {c : Char} {ahead : List Char} (digit : c.isDigit = false)
      (start : isIdentStart c = false) (spelled : Operator.recognize? (c :: ahead) = none) :
      Found c ahead (.unexpected c)

theorem found_ofZero (next : Char) (rest : List Char) : Found '0' (next :: rest) (ofZero next) := by
  unfold ofZero
  split
  · exact .basedNumber ‹_›
  · split
    · rename_i hsecond
      exact .leadingZero (by simpa using hsecond)
    · rename_i hnot
      refine .number (.inl rfl) ?_
      rintro next' rest' - ⟨⟩
      rw [Bool.or_eq_true, not_or, Bool.not_eq_true, beq_iff_eq] at hnot
      exact ⟨hnot.2, hnot.1⟩

theorem found_ofOther {c : Char} {ahead : List Char} (hdigit : c.isDigit = false)
    (hdot : c = '.' → ahead.head?.any Char.isDigit = false)
    (hslash : c = '/' → ahead.head? ≠ some '/' ∧ ahead.head? ≠ some '*') :
    Found c ahead (ofOther c ahead) := by
  unfold ofOther
  split
  · exact .operator ‹_› hdot hslash
  · split
    · exact .name ‹_›
    · exact .unexpected hdigit (eq_false_of_ne_true ‹_›) ‹_›

theorem found_of (c : Char) (ahead : List Char) : Found c ahead (of c ahead) := by
  fun_cases of c ahead with
  | case1 => exact .lineComment
  | case2 => exact .blockComment
  | case3 => exact .tripleString
  | case4 _ hsingle => exact .string fun ⟨rest, hrest⟩ => hsingle rest hrest.symm
  | case5 => exact .character
  | case6 => exact .template
  | case7 => exact .rawString (.inl ⟨_, rfl⟩)
  | case8 => exact .rawString (.inr (.inl ⟨_, rfl⟩))
  | case9 => exact .rawString (.inr (.inr ⟨_, rfl⟩))
  | case10 next rest _ _ hstart => exact .escapedName hstart
  | case11 => exact .name rfl
  | case12 next rest => exact found_ofZero next rest
  | case13 next rest hdigit => exact .number (.inr ⟨rfl, hdigit⟩) fun _ _ hzero => nomatch hzero
  | case14 next rest hdigit =>
    exact found_ofOther rfl (fun _ => eq_false_of_ne_true hdigit) fun hslash => nomatch hslash
  | case15 =>
    rename_i hdigit _ _ _ _ _ _ _ _ _ _ hzero _
    rw [if_pos hdigit]
    exact .number (.inl hdigit) fun next rest hfirst hahead => (hzero next rest hfirst hahead).elim
  | case16 =>
    rename_i hdigit _ _ _ hslashes hstar _ _ _ _ _ _ hdot
    rw [if_neg hdigit]
    refine found_ofOther (eq_false_of_ne_true hdigit) (fun hfirst => ?_) fun hfirst => ⟨?_, ?_⟩
    · cases ahead with
      | nil => rfl
      | cons next rest => exact (hdot next rest hfirst rfl).elim
    · intro hnext
      obtain ⟨rest, hrest⟩ := List.head?_eq_some_iff.1 hnext
      exact hslashes rest hfirst hrest
    · intro hnext
      obtain ⟨rest, hrest⟩ := List.head?_eq_some_iff.1 hnext
      exact hstar rest hfirst hrest

theorem of_eq_number {c : Char} {ahead : List Char} (h : Opening.of c ahead = .number) :
    c.isDigit = true ∨ c = '.' ∧ ahead.head?.any Char.isDigit = true := by
  cases h ▸ found_of c ahead with
  | number hbegins => exact hbegins

/-- Every token is stepped over, unless its scan fails. -/
theorem consumes_scanner {c : Cursor} {ch : Char} {ahead : List Char}
    (hcur : c.current = .scalar ch) (hnext : ahead.head? = (c.peek 1).1.toChar?) :
    Scanner.Consumes (Opening.of ch ahead).scanner c := by
  cases h : Opening.of ch ahead with
  | lineComment doc => exact Scanner.consumes_lineComment hcur doc
  | blockComment legal => exact Scanner.consumes_blockComment hcur legal
  | string => exact Scanner.consumes_string hcur
  | tripleString => exact Scanner.consumes_tripleString hcur
  | character => exact Scanner.consumes_character hcur
  | template => exact Scanner.consumes_template hcur
  | rawString => exact Scanner.consumes_rawString hcur
  | escapedName => exact Scanner.consumes_escapedName hcur
  | number => exact Scanner.consumes_decimalNumber hcur (hnext ▸ of_eq_number h)
  | basedNumber base => exact Scanner.consumes_basedNumber hcur base
  | leadingZero => exact Scanner.consumes_leadingZero c
  | operator op => exact Scanner.consumes_operator hcur op
  | name => exact Scanner.consumes_name hcur
  | unexpected d => exact Scanner.consumes_unexpected hcur d

end Opening

end Lexis
