import Lexis.Lexer.Scanner
import Lexis.Proofs.Cursor.Passage

/-!
# Outcomes of scanners

`Ends s c post fault` says what a scanner comes to from a cursor: a result and a cursor of which
`post` holds, or an error of which `fault` holds. The rules below take a scanner apart into its
steps. A scanner of tokens is right about its place if it `Recognizes` what it passes: then its
lexeme fits between the cursors, and its error lies in the text of the token.
-/

namespace Lexis

namespace Scanner

variable {α β : Type} {s : Scanner α} {c : Cursor} {post : α → Cursor → Prop}
  {fault : LexError → Prop}

def Ends (s : Scanner α) (c : Cursor) (post : α → Cursor → Prop) (fault : LexError → Prop) :
    Prop :=
  match s c with
  | .ok a c' => post a c'
  | .error e _ => fault e

theorem ends_bind {k : α → Scanner β} {post : β → Cursor → Prop} :
    Ends (s >>= k) c post fault ↔ Ends s c (fun a c' => Ends (k a) c' post fault) fault := by
  simp only [Ends, Bind.bind, EStateM.bind]
  cases s c <;> exact Iff.rfl

theorem Ends.of_ok {a : α} {c' : Cursor} (h : Ends s c post fault) (hs : s c = .ok a c') :
    post a c' := by
  unfold Ends at h
  rw [hs] at h
  exact h

theorem bind_eq_ok_iff {k : α → Scanner β} {b : β} {c₂ : Cursor} :
    (s >>= k) c = .ok b c₂ ↔ ∃ a c₁, s c = .ok a c₁ ∧ k a c₁ = .ok b c₂ := by
  simp only [Bind.bind, EStateM.bind]
  cases hs : s c with
  | ok a c₁ => exact ⟨fun h => ⟨a, c₁, rfl, h⟩, fun ⟨_, _, rfl, h⟩ => h⟩
  | error e c₁ => exact ⟨nofun, fun ⟨_, _, h, _⟩ => nomatch h⟩

theorem ends_pure {a : α} : Ends (pure a) c post fault ↔ post a c := Iff.rfl

theorem ends_fail {e : LexError} : Ends (fail e : Scanner α) c post fault ↔ fault e := Iff.rfl

theorem ends_get {post : Cursor → Cursor → Prop} :
    Ends (get : Scanner Cursor) c post fault ↔ post c c := Iff.rfl

theorem ends_current {post : CodePoint → Cursor → Prop} :
    Ends current c post fault ↔ post c.current c := Iff.rfl

theorem ends_index {post : Nat → Cursor → Prop} :
    Ends index c post fault ↔ post c.index c := Iff.rfl

theorem ends_move {f : Cursor → Cursor} {post : Unit → Cursor → Prop} :
    Ends (move f) c post fault ↔ post () (f c) := Iff.rfl

theorem ends_skip {n : Nat} {post : Unit → Cursor → Prop} :
    Ends (skip n) c post fault ↔ post () (c.advanceBy n) := Iff.rfl

theorem ends_peek {n : Nat} {post : CodePoint → Cursor → Prop} :
    Ends (peek n) c post fault ↔ post (c.peek n).1 (c.peek n).2 := Iff.rfl

theorem ends_modifyGet {f : Cursor → α × Cursor} :
    Ends (modifyGet f) c post fault ↔ post (f c).1 (f c).2 := Iff.rfl

theorem ends_bytesFrom {start : Nat} {post : ByteArray → Cursor → Prop} :
    Ends (bytesFrom start) c post fault ↔ post ((Span.mk start c.index).slice c.bytes) c := Iff.rfl

theorem Ends.mono {post' : α → Cursor → Prop} {fault' : LexError → Prop}
    (h : Ends s c post fault) (hpost : ∀ a c', post a c' → post' a c')
    (hfault : ∀ e, fault e → fault' e) : Ends s c post' fault' := by
  unfold Ends at h ⊢
  cases hs : s c with
  | ok a c' =>
    rw [hs] at h
    exact hpost a c' h
  | error e c' =>
    rw [hs] at h
    exact hfault e h

/-- The scanner does not fail, and nothing but text lies between where it begins and ends. -/
def Moves (s : Scanner α) (c : Cursor) : Prop :=
  Ends s c (fun _ c' => ∃ passed, c.Passes passed c') fun _ => False

theorem Moves.mono (h : Moves s c)
    (hpost : ∀ a c' passed, c.Passes passed c' → post a c') : Ends s c post fault := by
  refine Ends.mono h ?_ fun _ => False.elim
  rintro a c' ⟨passed, hpassed⟩
  exact hpost a c' passed hpassed

end Scanner

/-! ## Places of errors -/

/-- What may stand in a number, wherever it is broken off. -/
def isNumberChar (c : Char) : Bool :=
  c.isAlphanum || c == '_' || c == '.' || c == '+' || c == '-'

/-- What an error of the kind says of the text before its span, under it and behind it, all from the
beginning of the token on. -/
def LexErrorKind.Divides (kind : LexErrorKind) (before inside rest : List Char) : Prop :=
  match kind with
  | .unterminatedString | .unterminatedChar | .unterminatedTemplate | .unterminatedRawString
  | .invalidRawStringStart => before = []
  | .unterminatedBlockComment => ['/', '*'] <+: before ∧ inside = [] ∧ rest = []
  | _ => ∀ c ∈ before, isNumberChar c = true

/-- The span of the error lies in the text of a token that begins at `start`. -/
def LexError.LiesIn (e : LexError) (start : Nat) (text : List Char) : Prop :=
  ∃ before inside rest, text = before ++ inside ++ rest ∧
    e.span = ⟨start + Utf8.size before, start + Utf8.size before + Utf8.size inside⟩ ∧
    e.kind.Divides before inside rest

theorem LexError.LiesIn.start_le {e : LexError} {start : Nat} {text : List Char}
    (h : e.LiesIn start text) : start ≤ e.span.start := by
  obtain ⟨before, inside, rest, -, hspan, -⟩ := h
  rw [hspan]
  exact Nat.le_add_right _ _

/-- What the lexeme says of itself is so between the two offsets. -/
structure Lexeme.Fits (lexeme : Lexeme) (start stop : Nat) : Prop where
  kind_ne : lexeme.kind ≠ .endOfInput
  problem : match lexeme.problem? with
    | none => lexeme.kind ≠ .syntaxError
    | some problem => lexeme.kind = .syntaxError ∧ start ≤ problem.span.start ∧
      problem.span.start < problem.span.stop ∧ problem.span.stop ≤ stop

theorem Lexeme.fits_of_ne {lexeme : Lexeme} {start stop : Nat} (hkind : lexeme.kind ≠ .endOfInput)
    (herror : lexeme.kind ≠ .syntaxError) (hproblem : lexeme.problem? = none) :
    lexeme.Fits start stop := by
  refine ⟨hkind, ?_⟩
  rw [hproblem]
  exact herror

namespace Scanner

def Recognizes (s : Scanner Lexeme) (c : Cursor) : Prop :=
  Ends s c (fun lexeme c' => (∃ passed, c.Passes passed c') ∧ lexeme.Fits c.index c'.index)
    fun e => e.LiesIn c.index c.text

end Scanner

end Lexis
