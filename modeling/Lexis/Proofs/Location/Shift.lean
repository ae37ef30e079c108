import Lexis.Lexer
import Lexis.Proofs.Lexer.Reporting

/-!
# Moving offsets

The same text can stand at two places. Whatever has been found in it at the one place has been found
at the other with all offsets moved: spans, errors, pragmas, lexemes, tokens and diagnostics each
have a `shift`. The locations of a diagnostic are not offsets and cannot be moved, and
`Diagnostic.unlocated` leaves them out.
-/

namespace Lexis

variable {n : Nat}

def Span.shift (s : Span) (n : Nat) : Span := ⟨s.start + n, s.stop + n⟩

theorem Span.shift_ofLength (start len n : Nat) :
    (ofLength start len).shift n = ofLength (start + n) len := by
  simp only [shift, ofLength, Nat.add_right_comm]

/-! ## Errors and diagnostics -/

def LexError.shift (e : LexError) (n : Nat) : LexError := ⟨e.span.shift n, e.kind⟩

def Problem.shift (p : Problem) (n : Nat) : Problem := ⟨p.span.shift n, p.kind⟩

def Stop.shift (stop : Stop) (n : Nat) : Stop :=
  match stop with
  | .fatal e => .fatal (e.shift n)
  | .violation v => .violation v

def Note.shift (note : Note) (n : Nat) : Note :=
  { note with span? := note.span?.map (·.shift n) }

def Diagnostic.shift (d : Diagnostic) (n : Nat) : Diagnostic :=
  { d with
    span := d.span.shift n
    notes := d.notes.map (·.shift n) }

def Note.unlocated (note : Note) : Note := { note with location? := none }

/-- The diagnostic without the locations of its span and of its notes. -/
def Diagnostic.unlocated (d : Diagnostic) : Diagnostic :=
  { d with
    location? := none
    notes := d.notes.map Note.unlocated }

theorem LexErrorKind.shift_designated (kind : LexErrorKind) (start stop n : Nat) :
    (kind.designated start stop).shift n = kind.designated (start + n) (stop + n) := by
  cases kind <;> first | rfl | exact Span.shift_ofLength _ _ _

theorem LexError.shift_between (kind : LexErrorKind) (start stop n : Nat) :
    (between kind start stop).shift n = between kind (start + n) (stop + n) := by
  rw [between, shift, kind.shift_designated]
  rfl

theorem LexError.shift_atOffset (kind : LexErrorKind) (offset n : Nat) :
    (atOffset kind offset).shift n = atOffset kind (offset + n) :=
  shift_between ..

theorem LexError.shift_diagnostic (e : LexError) (start n : Nat) :
    (e.diagnostic start).shift n = (e.shift n).diagnostic (start + n) := by
  obtain ⟨span, kind⟩ := e
  cases kind with
  | unterminatedBlockComment =>
    simp only [diagnostic, Diagnostic.shift, List.map_cons, List.map_nil, Note.shift,
      Option.map_some, Span.shift_ofLength]
    rfl
  | _ => rfl

theorem Note.unlocated_located (source : Source) (note : Note) :
    (note.located source).unlocated = note.unlocated := by
  unfold Note.located
  split <;> rfl

namespace Diagnostic

theorem unlocated_located (source : Source) (d : Diagnostic) :
    (d.located source).unlocated = d.unlocated := by
  have hnotes : (d.notes.map (Note.located source)).map Note.unlocated =
      d.notes.map Note.unlocated := by
    rw [List.map_map]
    exact List.map_congr_left fun note _ => note.unlocated_located source
  simp only [unlocated, located, hnotes]

theorem unlocated_shift (d : Diagnostic) (n : Nat) :
    (d.shift n).unlocated = d.unlocated.shift n := by
  simp only [unlocated, shift, List.map_map]
  rfl

theorem unlocated_located_shift (d : Diagnostic) (source source' : Source) (n : Nat) :
    ((d.shift n).located source').unlocated = ((d.located source).shift n).unlocated := by
  rw [unlocated_located, unlocated_shift, unlocated_shift, unlocated_located]

end Diagnostic

/-! ## Pragmas -/

def PragmaArgument.shift (arg : PragmaArgument) (n : Nat) : PragmaArgument :=
  ⟨arg.text, arg.span.shift n⟩

def Pragmas.shift (p : Pragmas) (n : Nat) : Pragmas where
  sourceMappingUrl? := p.sourceMappingUrl?.map (·.shift n)
  edition? := p.edition?.map (·.shift n)

namespace PragmaArgument

theorem shift_first? (offset n : Nat) (text : List Char) :
    (first? offset text).map (·.shift n) = first? (offset + n) text := by
  unfold first?
  by_cases hword : (text.takeWhile (!CharClass.isWhitespace ·)).isEmpty = true
  · simp only [hword, if_true, Option.map_none]
  · simp only [hword, Bool.false_eq_true, if_false, Option.map_some, shift, Span.shift_ofLength]

theorem shift_read? (gap : PragmaGap) (offset n : Nat) (keyword text : List Char) :
    (read? gap offset keyword text).map (·.shift n) = read? gap (offset + n) keyword text := by
  unfold read?
  cases afterKeyword? keyword text with
  | none => rfl
  | some rest =>
    cases gap with
    | adjacent =>
      simp only [shift_first?, Nat.add_right_comm]
    | spaced =>
      simp only
      split
      · rfl
      · simp only [shift_first?, Nat.add_right_comm]

end PragmaArgument

namespace Pragmas

theorem shift_findSourceMappingUrl? (start n : Nat) (text : List Char) :
    (findSourceMappingUrl? start text).map (·.shift n) =
      findSourceMappingUrl? (start + n) text := by
  unfold findSourceMappingUrl?
  split
  · rw [PragmaArgument.shift_read?, Nat.add_right_comm]
  · rfl

theorem shift_findEdition? (offset n : Nat) (text : List Char) :
    (findEdition? offset text).map (·.shift n) = findEdition? (offset + n) text := by
  induction text generalizing offset with
  | nil => rfl
  | cons c text ih =>
    have hhere : (if c = '@' then PragmaArgument.read? .spaced (offset + n + 1) editionKeyword text
          else none) =
        (if c = '@' then PragmaArgument.read? .spaced (offset + 1) editionKeyword text
          else none).map (·.shift n) := by
      split
      · rw [PragmaArgument.shift_read?, Nat.add_right_comm]
      · rfl
    simp only [findEdition?, hhere]
    cases (if c = '@' then PragmaArgument.read? .spaced (offset + 1) editionKeyword text
      else none) with
    | some arg => rfl
    | none =>
      simp only [Option.map_none]
      rw [ih, Nat.add_right_comm]

/-- A comment that stands elsewhere has the same pragmas there. -/
theorem shift_ofComment (start n : Nat) (text : List Char) :
    (ofComment start text).shift n = ofComment (start + n) text := by
  rw [ofComment, shift, shift_findSourceMappingUrl?, shift_findEdition?, ofComment]

theorem shift_zero (p : Pragmas) : p.shift 0 = p := by
  obtain ⟨url?, edition?⟩ := p
  cases url? <;> cases edition? <;> rfl

theorem shift_none (n : Nat) : Pragmas.shift {} n = {} := rfl

theorem shift_update (former found : Pragmas) (n : Nat) :
    (former.update found).shift n = (former.shift n).update (found.shift n) := by
  obtain ⟨url?, edition?⟩ := found
  cases url? <;> cases edition? <;> rfl

theorem none_update (p : Pragmas) : Pragmas.update {} p = p := by
  obtain ⟨url?, edition?⟩ := p
  cases url? <;> cases edition? <;> rfl

theorem update_assoc (p q r : Pragmas) : (p.update q).update r = p.update (q.update r) := by
  obtain ⟨url?, edition?⟩ := r
  cases url? <;> cases edition? <;> rfl

end Pragmas

/-! ## Lexemes and tokens -/

def Lexeme.shift (lexeme : Lexeme) (n : Nat) : Lexeme :=
  { lexeme with
    problem? := lexeme.problem?.map (·.shift n)
    pragmas := lexeme.pragmas.shift n }

def Token.shift (t : Token) (n : Nat) : Token := { t with offset := t.offset + n }

/-- What a call has come to, at a place further on. -/
def shiftResult (result : Except Stop Token) (n : Nat) : Except Stop Token :=
  match result with
  | .ok t => .ok (t.shift n)
  | .error stop => .error (stop.shift n)

theorem Lexeme.shift_zero (lexeme : Lexeme) : lexeme.shift 0 = lexeme := by
  obtain ⟨kind, flags, value?, problem?, pragmas, crossesLine⟩ := lexeme
  rw [shift, Pragmas.shift_zero]
  cases problem? <;> rfl

theorem Token.shift_zero (t : Token) : t.shift 0 = t := rfl

end Lexis
