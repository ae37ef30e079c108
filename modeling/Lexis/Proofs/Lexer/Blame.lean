import Lexis.Proofs.Lexer.Outcomes
import Lexis.Proofs.Scanner.Blame

/-!
# Number errors of a run

A run that ends with an error of a number designates the place in the number that is to blame, and
up to there a literal could have been written (`driven_pointsAt`).
-/

namespace Lexis

/-- An error of a number in a step is about the number that begins where the gap ends. -/
theorem Lexer.Outcome.pointsAt {source : Source} {again : Bool} {start : Nat} {e : LexError}
    (h : Outcome source again start (.error (.fatal e))) (hkind : e.kind.IsNumberError) :
    e.PointsAt start (Utf8.textFrom source.contents start) := by
  generalize hresult : Except.error (Stop.fatal e) = result at h
  cases h with
  | finish => cases hresult
  | script => cases hresult
  | scan hat hindex hcur =>
    subst hindex
    obtain ⟨c', hscan⟩ := resultOf_eq_error_iff.1 hresult.symm
    rw [← hat.text_eq]
    exact pointsAt_of_scanAt hcur hscan hkind
  | @rescan c =>
    obtain ⟨c', hscan⟩ := resultOf_eq_error_iff.1 hresult.symm
    exact absurd hkind (Scanner.spares_templateContinuation start _ c e c' hscan)

/-- Every number error of a run points at its cause. -/
theorem driven_pointsAt (source : Source) (config : LexerConfig) (choices : List Bool) :
    Stepwise (fun _ offset result =>
        ∀ e, result = .error (.fatal e) → e.kind.IsNumberError →
          ∃ start, Gap source.contents config.keepComments offset start ∧
            GapEnds source.contents config.keepComments start ∧
            e.PointsAt start (Utf8.textFrom source.contents start))
      0 choices ((Lexer.ofSource source config).driven choices).1 := by
  apply Lexer.stepwise_ofSource
  rintro again offset start _ hgap hends houtcome e rfl hkind
  exact ⟨start, hgap, hends, houtcome.pointsAt hkind⟩

example :
    ((Lexer.ofSource ⟨"bits", "1 0b1_2".toUTF8, 0, by decide⟩ {}).driven [false, false]).1[1]? =
      some (.error (.fatal ⟨⟨6, 7⟩, .invalidDigit '2' 2⟩)) := by
  decide +kernel

end Lexis
