import Lexis.Lexer

/-!
# Following interpolations

Reading a source with templates needs to know which closing braces end an interpolation. The braces
opened inside each interpolation are counted, as a parser does; a closing brace with none left to
match ends the interpolation, and the template goes on there.
-/

namespace Lexis

/-- The open interpolations, the innermost first, each with the number of braces open in it. -/
structure Interpolations where
  openBraces : List Nat := []
  deriving DecidableEq, Inhabited

namespace Interpolations

/-- Whether the token ends the innermost interpolation. -/
def endsAt (s : Interpolations) (t : Token) : Bool :=
  t.kind == .operator .closeBrace && s.openBraces.head? == some 0

def after (s : Interpolations) (t : Token) : Interpolations :=
  match t.kind, s.openBraces with
  | .templateHead, counts => ⟨0 :: counts⟩
  | .templateTail, _ :: counts => ⟨counts⟩
  | .operator .openBrace, n :: counts => ⟨(n + 1) :: counts⟩
  | .operator .closeBrace, n :: counts => ⟨(n - 1) :: counts⟩
  | _, _ => s

end Interpolations

namespace Lexer

/-- The next token; a brace that ends an interpolation is replaced by the continuation of its
template. -/
def nextFollowing (l : Lexer) (s : Interpolations) :
    Except Stop Token × Lexer × Interpolations :=
  match l.next with
  | (.error e, l) => (.error (.fatal e), l, s)
  | (.ok t, l) =>
    if s.endsAt t then
      match l.rescan t with
      | (.error stop, l) => (.error stop, l, s)
      | (.ok t, l) => (.ok t, l, s.after t)
    else (.ok t, l, s.after t)

theorem remaining_nextFollowing_lt {l l' : Lexer} {s s' : Interpolations} {t : Token}
    (h : l.nextFollowing s = (.ok t, l', s')) (hfinished : l'.isFinished = false) :
    l'.cursor.remaining < l.cursor.remaining := by
  unfold nextFollowing at h
  split at h
  · cases h
  · rename_i t₁ l₁ hnext
    split at h
    · split at h
      · cases h
      · rename_i t₂ l₂ hrescan
        cases h
        have hrunning : l₁.isFinished = false := by
          cases hf : l₁.isFinished with
          | false => rfl
          | true =>
            simp only [rescan, hf, if_true, Prod.mk.injEq] at hrescan
            rw [← hrescan.2, hf] at hfinished
            cases hfinished
        exact Nat.lt_of_le_of_lt (remaining_rescan_le hrescan hfinished)
          (remaining_next_lt hnext hrunning)
    · cases h
      exact remaining_next_lt hnext hfinished

end Lexer

end Lexis
