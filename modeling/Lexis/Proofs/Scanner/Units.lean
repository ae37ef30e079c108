import Lexis.Lexer.Quoted

/-!
# Units of quoted bodies

A body is read unit by unit: a backslash with what it escapes, or a single code point. The scan of a
body crosses those units that neither begin with a closer nor break the literal off. Where it halts
is a matter of the text alone (`Crosses.unique`), and so is whether the body has to be decoded.
-/

namespace Lexis.QuoteStyle

open CharClass

variable {style : QuoteStyle} {ch : Char} {unit passed more rest rest' text : List Char}

/-! ## Delimiters and tokens -/

/-- What a literal of the style begins with. -/
def opening : QuoteStyle → List Char
  | .string => ['"']
  | .tripleString => ['"', '"', '"']
  | .character => ['\'']
  | .template => ['\x60']
  | .raw hashes => 'r' :: List.replicate hashes '#' ++ ['"']

/-- What a literal of the style ends with. -/
def closing : QuoteStyle → List Char
  | .string => ['"']
  | .tripleString => ['"', '"', '"']
  | .character => ['\'']
  | .template => ['\x60']
  | .raw hashes => '"' :: List.replicate hashes '#'

/-- The literal with the given body. -/
def enclose (style : QuoteStyle) (body : List Char) : List Char :=
  style.opening ++ body ++ style.closing

/-- The flags that the tokens of the style have. -/
def flags : QuoteStyle → TokenFlags
  | .string | .character => {}
  | .tripleString | .template => { multiLine := true }
  | .raw _ => { raw := true }

/-- The kinds that the tokens of the style have, unless they go on with a template. -/
def kind : QuoteStyle → Ending → TokenKind
  | .string, _ | .tripleString, _ | .raw _, _ => .stringLiteral
  | .character, _ => .charLiteral
  | .template, .closed => .stringLiteral
  | .template, .interpolation => .templateHead

theorem isQuoted_kind (style : QuoteStyle) (ending : Ending) :
    (style.kind ending).isQuoted = true := by
  cases style <;> cases ending <;> rfl

theorem kind_eq_charLiteral_iff (style : QuoteStyle) (ending : Ending) :
    style.kind ending = .charLiteral ↔ style = .character := by
  cases style <;> cases ending <;> simp [kind]

/-! ## Units -/

/-- A unit of a body in front of a text. A backslash takes the code point behind it along, and a
carriage return there the line feed behind that. -/
inductive IsUnit (style : QuoteStyle) : (unit rest : List Char) → Prop
  | single (ch : Char) (rest : List Char) (hplain : ch = '\\' → style.hasEscapes = false) :
      IsUnit style [ch] rest
  | escape (ch : Char) (rest : List Char) (hescapes : style.hasEscapes = true)
      (hnot : ch = '\r' → rest.head? ≠ some '\n') : IsUnit style ['\\', ch] rest
  | lineBreak (rest : List Char) (hescapes : style.hasEscapes = true) :
      IsUnit style ['\\', '\r', '\n'] rest
  | dangling (hescapes : style.hasEscapes = true) : IsUnit style ['\\'] []

/-- The closer that the text begins with, and how it ends the body. -/
def closing? (style : QuoteStyle) (text : List Char) : Option (List Char × Ending) :=
  style.closers.find? fun closer => closer.1.isPrefixOf text

/-- The text is over, or begins with a line terminator that the style does not admit. -/
def breaksAt (style : QuoteStyle) (text : List Char) : Bool :=
  text.head?.all fun ch => style.isSingleLine && isLineTerminator ch

/-- The scan of a body goes on where the text begins. -/
def Live (style : QuoteStyle) (text : List Char) : Prop :=
  style.breaksAt text = false ∧ style.closing? text = none

/-- The scan of a body passes the first text, unit by unit, and comes to the second. -/
inductive Crosses (style : QuoteStyle) : (passed rest : List Char) → Prop
  | nil (rest : List Char) : Crosses style [] rest
  | cons {unit passed rest : List Char} (hunit : style.IsUnit unit (passed ++ rest))
      (hlive : style.Live (unit ++ (passed ++ rest))) (hrest : Crosses style passed rest) :
      Crosses style (unit ++ passed) rest

theorem not_live_of_breaksAt (h : style.breaksAt text = true) : ¬ style.Live text := by
  intro hlive
  rw [hlive.1] at h
  cases h

theorem not_live_of_closing? {closer : List Char × Ending} (h : style.closing? text = some closer) :
    ¬ style.Live text := by
  intro hlive
  rw [hlive.2] at h
  cases h

theorem prefix_of_closing? {closer : List Char} {ending : Ending}
    (h : style.closing? text = some (closer, ending)) :
    (closer, ending) ∈ style.closers ∧ closer <+: text := by
  have hfound : (closer.isPrefixOf text) = true := List.find?_some (a := (closer, ending)) h
  exact ⟨List.mem_of_find?_eq_some h, List.isPrefixOf_iff_prefix.1 hfound⟩

/-- A text begins with one unit only. -/
theorem IsUnit.unique {unit' : List Char} (h : style.IsUnit unit rest)
    (h' : style.IsUnit unit' rest') (heq : unit ++ rest = unit' ++ rest') : unit = unit' := by
  cases h <;> cases h' <;> grind

theorem Crosses.unique {passed' : List Char} (h : style.Crosses passed rest)
    (h' : style.Crosses passed' rest') (heq : passed ++ rest = passed' ++ rest')
    (hrest : ¬ style.Live rest) (hrest' : ¬ style.Live rest') :
    passed = passed' ∧ rest = rest' := by
  induction h generalizing passed' with
  | nil rest =>
    cases h' with
    | nil => exact ⟨rfl, heq⟩
    | cons hunit' hlive' =>
      rw [List.nil_append, List.append_assoc] at heq
      exact absurd (heq ▸ hlive') hrest
  | cons hunit hlive _ ih =>
    cases h' with
    | nil =>
      rw [List.nil_append, List.append_assoc] at heq
      exact absurd (heq ▸ hlive) hrest'
    | cons hunit' hlive' hcrosses' =>
      rw [List.append_assoc, List.append_assoc] at heq
      obtain rfl := hunit.unique hunit' heq
      obtain ⟨rfl, rfl⟩ := ih hcrosses' (List.append_cancel_left heq) hrest
      exact ⟨rfl, rfl⟩

theorem Crosses.append (h : style.Crosses passed (more ++ rest)) (h' : style.Crosses more rest) :
    style.Crosses (passed ++ more) rest := by
  -- The induction is on the first text alone: what is behind it is one text to it.
  generalize hbehind : more ++ rest = behind at h
  induction h with
  | nil => exact h'
  | @cons unit passed _ hunit hlive _ ih =>
    subst hbehind
    rw [← List.append_assoc] at hunit
    rw [← List.append_assoc passed] at hlive
    rw [List.append_assoc]
    exact .cons hunit hlive (ih rfl)

theorem closing?_closing (style : QuoteStyle) :
    style.closing? style.closing = some (style.closing, .closed) := by
  cases style with
  | raw hashes => simp [closing?, closers, closing]
  | _ => rfl

theorem Crosses.live (h : style.Crosses passed rest) (hne : passed ≠ []) :
    style.Live (passed ++ rest) := by
  cases h with
  | nil => exact absurd rfl hne
  | cons hunit hlive hrest => rwa [List.append_assoc]

/-! ## Plain text -/

/-- The code points that a closer of the style can begin with. -/
def marks : QuoteStyle → List Char
  | .string | .tripleString | .raw _ => ['"']
  | .character => ['\'']
  | .template => ['\x60', '\x7b']

/-- The code point stands for itself wherever it is found in a body. -/
structure Plain (style : QuoteStyle) (ch : Char) : Prop where
  not_backslash : ch ≠ '\\'
  not_mark : ch ∉ style.marks
  not_break : style.isSingleLine = true → isLineTerminator ch = false

instance (style : QuoteStyle) (ch : Char) : Decidable (style.Plain ch) :=
  decidable_of_iff
    (ch ≠ '\\' ∧ ch ∉ style.marks ∧ (style.isSingleLine = true → isLineTerminator ch = false))
    ⟨fun h => ⟨h.1, h.2.1, h.2.2⟩, fun h => ⟨h.not_backslash, h.not_mark, h.not_break⟩⟩

theorem closing?_cons_eq_none (h : ch ∉ style.marks) : style.closing? (ch :: rest) = none := by
  have hne : ∀ mark ∈ style.marks, (mark == ch) = false := by
    intro mark hmark
    rw [beq_eq_false_iff_ne]
    rintro rfl
    exact h hmark
  cases style <;> simp [marks] at hne <;> simp [closing?, closers, hne]

theorem closing?_of_breaksAt (h : style.breaksAt text = true) : style.closing? text = none := by
  cases text with
  | nil => cases style <;> rfl
  | cons ch text =>
    obtain ⟨hsingle, hline⟩ : style.isSingleLine = true ∧ isLineTerminator ch = true := by
      simpa [breaksAt] using h
    apply closing?_cons_eq_none
    intro hmark
    cases style <;> simp [isSingleLine] at hsingle <;> simp [marks] at hmark <;> subst hmark <;>
      cases hline

theorem live_of_plain (h : style.Plain ch) (rest : List Char) : style.Live (ch :: rest) := by
  refine ⟨?_, closing?_cons_eq_none h.not_mark⟩
  cases hsingle : style.isSingleLine with
  | false => simp [breaksAt, hsingle]
  | true => simp [breaksAt, h.not_break hsingle]

theorem crosses_of_plain (h : ∀ ch ∈ text, style.Plain ch) (rest : List Char) :
    style.Crosses text rest := by
  induction text with
  | nil => exact .nil rest
  | cons ch text ih =>
    rw [List.forall_mem_cons] at h
    have hunit : style.IsUnit [ch] (text ++ rest) :=
      .single ch _ fun hch => absurd hch h.1.not_backslash
    exact .cons hunit (live_of_plain h.1 _) (ih h.2)

/-- A backslash is crossed with the code point behind it, whatever that is. -/
theorem crosses_escape (hescapes : style.hasEscapes = true) (hch : ch ≠ '\r') (rest : List Char) :
    style.Crosses ['\\', ch] rest := by
  have hunit : style.IsUnit ['\\', ch] ([] ++ rest) :=
    .escape ch _ hescapes fun hreturn => absurd hreturn hch
  refine .cons hunit ⟨?_, ?_⟩ (.nil rest)
  · have hline : isLineTerminator '\\' = false := by decide
    simp [breaksAt, hline]
  · refine closing?_cons_eq_none ?_
    cases style <;> simp [marks]

/-! ## Values -/

/-- The text of a body is no value as it stands: there are escapes in it, or it is not ASCII. -/
def defers (style : QuoteStyle) (body : List Char) : Bool :=
  (style.hasEscapes && body.contains '\\') || body.any fun ch => !isAscii ch

/-- The value of a body that needs no decoding. -/
def value? (style : QuoteStyle) (body : List Char) : Option String :=
  if style.defers body then none else some (String.ofList body)

theorem defers_single (hplain : ch = '\\' → style.hasEscapes = false) :
    style.defers (ch :: passed) = (!isAscii ch || style.defers passed) := by
  have hnot : (style.hasEscapes && ('\\' == ch)) = false := by
    by_cases hch : ch = '\\'
    · rw [hplain hch, Bool.false_and]
    · have hne : ('\\' == ch) = false := beq_eq_false_iff_ne.2 fun heq => hch heq.symm
      rw [hne, Bool.and_false]
  simp only [defers, List.contains_cons, List.any_cons, Bool.and_or_distrib_left, hnot,
    Bool.false_or]
  rw [← Bool.or_assoc, Bool.or_comm _ (!isAscii ch), Bool.or_assoc]

theorem defers_append_of_mem (hescapes : style.hasEscapes = true) (hunit : '\\' ∈ unit) :
    style.defers (unit ++ passed) = true := by
  simp [defers, hescapes, hunit]

end Lexis.QuoteStyle
