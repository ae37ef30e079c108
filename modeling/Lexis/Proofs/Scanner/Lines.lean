import Lexis.Proofs.Beside.Token
import Lexis.Proofs.Scanner.Shapes

/-!
# What scanners tell of lines and comments

A scanner tells of the comment that it has passed where its pragmas are looked for and whether there
is a line terminator in it (`tellsComment_of_scanAt`). Nothing but a comment has pragmas, and what
stands in front of a token a scanner leaves to the lexer (`bare_of_scanAt`).
-/

namespace Lexis

open CharClass

/-- A lexeme that does not tell what stands in front of it and, unless it is a comment, holds no
pragmas. -/
structure Lexeme.Bare (lexeme : Lexeme) : Prop where
  newlineBefore_eq : lexeme.flags.newlineBefore = false
  pragmas_eq : lexeme.kind.isComment = false → lexeme.pragmas = {}

namespace Scanner

theorem bare_quotedLexeme (kind : TokenKind) {flags : TokenFlags} (text? : Option String)
    (h : flags.newlineBefore = false) : (quotedLexeme kind flags text?).Bare := by
  unfold quotedLexeme
  split
  · exact ⟨h, fun _ => rfl⟩
  · exact ⟨(Bool.or_false _).trans h, fun _ => rfl⟩

theorem bare_templateContinuation (start : Nat) :
    Yields (templateContinuation start { multiLine := true }) Lexeme.Bare := by
  unfold templateContinuation
  exact .bind fun _ => yields_pure (bare_quotedLexeme _ _ rfl)

/-! ## Comments -/

variable {c c' : Cursor} {text body closing : List Char} {lexeme : Lexeme}

/-- The text of a comment of the kind in front of its closing delimiter, and that delimiter. -/
inductive CommentParts : TokenKind → (body closing : List Char) → Prop
  | line {body : List Char} (opened : ['/', '/'] <+: body) : CommentParts .lineComment body []
  | block {body : List Char} (opened : ['/', '*'] <+: body) :
      CommentParts .blockComment body ['*', '/']

/-- What is told of a comment that has been passed. -/
structure TellsComment (c : Cursor) (lexeme : Lexeme) (c' : Cursor)
    (body closing : List Char) : Prop where
  parts : CommentParts lexeme.kind body closing
  passes : c.Passes (body ++ closing) c'
  pragmas_eq : lexeme.pragmas = .ofComment c.index body
  crossesLine_eq : lexeme.crossesLine = (body ++ closing).any isLineTerminator

theorem tellsComment_of_lineComment {doc : Bool} (h : c.Started)
    (htext : c.text = '/' :: '/' :: text) (hscan : lineComment doc c = .ok lexeme c') :
    TellsComment c lexeme c' (lineText '/' '/' text) [] := by
  obtain ⟨_, hfound, hpass⟩ := lineComment_eq_ok doc h htext
  cases hscan.symm.trans hfound
  rw [← List.append_nil (lineText _ _ _)] at hpass
  refine ⟨.line ⟨_, rfl⟩, hpass, rfl, Eq.symm ?_⟩
  have hline : (text.takeWhile (!isLineTerminator ·)).any isLineTerminator = false := by
    rw [List.any_eq_false]
    intro ch hch
    simpa using List.all_eq_true.1 List.all_takeWhile ch hch
  have hslash : isLineTerminator '/' = false := rfl
  rw [List.append_nil, lineText, List.any_cons, List.any_cons, hslash, hline]
  rfl

theorem tellsComment_of_blockComment {legal : Bool} (h : c.Started)
    (htext : c.text = '/' :: '*' :: text) (hscan : blockComment legal c = .ok lexeme c') :
    ∃ inner, TellsComment c lexeme c' ('/' :: '*' :: inner) ['*', '/'] := by
  obtain ⟨inner, rest, rfl, hbody⟩ := commentBody_of_blockComment h htext hscan
  obtain ⟨_, hfound, hpass⟩ := blockComment_eq_ok legal h htext hbody
  cases hscan.symm.trans hfound
  refine ⟨inner, .block ⟨inner, rfl⟩, hpass, rfl, Eq.symm ?_⟩
  have hopening : ['/', '*'].any isLineTerminator = false := rfl
  have hclosing : ['*', '/'].any isLineTerminator = false := rfl
  show (['/', '*'] ++ inner ++ ['*', '/']).any isLineTerminator = _
  rw [List.any_append, List.any_append, hopening, hclosing, Bool.false_or, Bool.or_false]

end Scanner

theorem Lexeme.Shape.bare {lexeme : Lexeme} (h : lexeme.Shape) : lexeme.Bare := by
  cases h with
  | lineComment => exact ⟨rfl, nofun⟩
  | blockComment => exact ⟨rfl, nofun⟩
  | quoted style _ text? => exact Scanner.bare_quotedLexeme _ text? (by cases style <;> rfl)
  | number | word | problem => exact ⟨rfl, fun _ => rfl⟩

namespace Lexer

open Scanner (TellsComment)

variable {c c' : Cursor} {ch : Char} {lexeme : Lexeme}

theorem bare_of_scanAt (hscan : scanAt c ch = .ok lexeme c') : lexeme.Bare :=
  (shape_of_scanAt hscan).bare

/-- How a comment comes to be scanned: behind the lookahead, and with the flag that the opening
gives it. -/
inductive ScansComment (c : Cursor) (lexeme : Lexeme) (c' : Cursor) : Prop
  | line {c₁ : Cursor} {doc : Bool} {text : List Char} (hahead : c.Passes [] c₁)
      (htext : c₁.text = '/' :: '/' :: text)
      (hopening : Opening.of '/' ('/' :: text.take 2) = .lineComment doc)
      (hscan : Scanner.lineComment doc c₁ = .ok lexeme c') : ScansComment c lexeme c'
  | block {c₁ : Cursor} {legal : Bool} {text : List Char} (hahead : c.Passes [] c₁)
      (htext : c₁.text = '/' :: '*' :: text)
      (hopening : Opening.of '/' ('*' :: text.take 2) = .blockComment legal)
      (hscan : Scanner.blockComment legal c₁ = .ok lexeme c') : ScansComment c lexeme c'

theorem scansComment_of_scanAt (hcur : c.current = .scalar ch)
    (hscan : scanAt c ch = .ok lexeme c') (hcomment : lexeme.kind.isComment = true) :
    ScansComment c lexeme c' := by
  have hahead := Cursor.passes_lookahead (.of_scalar hcur) 3
  have htells := Opening.tells_of ch (c.lookahead 3).1
  have hsees := Opening.sees_of ch (c.lookahead 3).1
  have htext : ∀ second, (c.lookahead 3).1.head? = some second →
      ∃ text, (c.lookahead 3).2.text = ch :: second :: text ∧
        (c.lookahead 3).1 = second :: text.take 2 := by
    intro second hsecond
    rw [c.lookahead_fst, List.head?_take, if_neg (by decide)] at hsecond
    obtain ⟨text, hupcoming⟩ := List.head?_eq_some_iff.1 hsecond
    refine ⟨text, ?_, by rw [c.lookahead_fst, hupcoming, List.take_succ_cons]⟩
    rw [hahead.text_eq_of_nil, Cursor.text_of_scalar hcur, hupcoming]
  obtain ⟨doc, hopening⟩ | ⟨legal, hopening⟩ := (makes_of_scanAt hscan).eq_comment hcomment
  · rw [hopening] at htells
    rw [scanAt, hopening] at hscan
    obtain ⟨rfl, rest, hrest⟩ := htells
    obtain ⟨text, htext, hseen⟩ := htext '/' (by rw [hrest]; rfl)
    exact .line hahead htext (hseen ▸ hopening) hscan
  · rw [hopening] at hsees
    rw [scanAt, hopening] at hscan
    obtain ⟨rfl, hsecond⟩ := hsees
    obtain ⟨text, htext, hseen⟩ := htext '*' hsecond
    exact .block hahead htext (hseen ▸ hopening) hscan

/-- A comment tells what it is made of. -/
theorem tellsComment_of_scanAt (hcur : c.current = .scalar ch)
    (hscan : scanAt c ch = .ok lexeme c') (hcomment : lexeme.kind.isComment = true) :
    ∃ body closing, TellsComment c lexeme c' body closing := by
  have hback : ∀ {c₁ body closing}, c.Passes [] c₁ → TellsComment c₁ lexeme c' body closing →
      TellsComment c lexeme c' body closing := fun hahead h =>
    ⟨h.parts, hahead.trans h.passes, hahead.index_eq_of_nil ▸ h.pragmas_eq, h.crossesLine_eq⟩
  cases scansComment_of_scanAt hcur hscan hcomment with
  | line hahead htext _ hscan =>
    exact ⟨_, _, hback hahead (Scanner.tellsComment_of_lineComment hahead.started htext hscan)⟩
  | block hahead htext _ hscan =>
    obtain ⟨inner, htold⟩ := Scanner.tellsComment_of_blockComment hahead.started htext hscan
    exact ⟨_, _, hback hahead htold⟩

/-- A comment tells whether there is a line terminator in it. -/
theorem crossesLine_of_scanAt (hcur : c.current = .scalar ch)
    (hscan : scanAt c ch = .ok lexeme c') (hcomment : lexeme.kind.isComment = true) :
    ∃ passed, c.Passes passed c' ∧ lexeme.crossesLine = passed.any isLineTerminator := by
  obtain ⟨body, closing, htells⟩ := tellsComment_of_scanAt hcur hscan hcomment
  exact ⟨_, htells.passes, htells.crossesLine_eq⟩

end Lexer

end Lexis
