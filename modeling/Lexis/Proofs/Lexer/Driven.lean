import Lexis.LexedFile
import Lexis.Proofs.Lexer.Calls

/-!
# Driven runs

A caller may let a template go on at each closing brace, at once. A step of such a run is a call
(`drive_call`), whatever the caller chooses, and lexing a file is the run of a caller who never does
(`rest_eq_driven`).
-/

namespace Lexis.Lexer

/-- The next token; if it is a closing brace and `again` is chosen, the template goes on there. -/
def drive (l : Lexer) (again : Bool) : Except Stop Token × Lexer :=
  match l.next with
  | (.error e, l) => (.error (.fatal e), l)
  | (.ok t, l) => if again && t.kind == .operator .closeBrace then l.rescan t else (.ok t, l)

/-- The results of a run with a choice for each step, and the lexer behind it. -/
def driven (l : Lexer) : List Bool → List (Except Stop Token) × Lexer
  | [] => ([], l)
  | again :: choices =>
    ((l.drive again).1 :: ((l.drive again).2.driven choices).1, ((l.drive again).2.driven choices).2)

/-- What a step of a run comes to. -/
inductive Drives (l : Lexer) (again : Bool) : Except Stop Token × Lexer → Prop
  | broken {e : LexError} {l' : Lexer} (next : l.next = (.error e, l')) :
      Drives l again (.error (.fatal e), l')
  | resumed {brace : Token} {l' : Lexer} (next : l.next = (.ok brace, l'))
      (again_eq : again = true) (kind_eq : brace.kind = .operator .closeBrace) :
      Drives l again (l'.rescan brace)
  | returned {t : Token} {l' : Lexer} (next : l.next = (.ok t, l'))
      (stays : again = true → t.kind ≠ .operator .closeBrace) : Drives l again (.ok t, l')

theorem drives (l : Lexer) (again : Bool) : Drives l again (l.drive again) := by
  unfold drive
  cases hnext : l.next with
  | mk result l' =>
    cases result with
    | error e => exact .broken hnext
    | ok t =>
      simp only
      split
      · rename_i hagain
        obtain ⟨hagain, hkind⟩ := Bool.and_eq_true_iff.1 hagain
        exact .resumed hnext hagain (eq_of_beq hkind)
      · rename_i hnot
        exact .returned hnext fun hagain hkind => hnot (by simp [hagain, hkind])

variable {l : Lexer}

theorem drive_call (h : l.Ready) (hphase : l.phase ≠ .finished) (again : Bool) :
    ∃ start, Gap l.source.contents l.config.keepComments l.cursor.index start ∧
      Call l start (l.drive again).1 (l.drive again).2 := by
  obtain ⟨start, hgap, hcall⟩ := next_call h hphase
  have hle := hgap.le h.cursor.boundary.1
  refine ⟨start, hgap, ?_⟩
  have hdrive := l.drives again
  generalize l.drive again = found at hdrive ⊢
  cases hdrive with
  | broken hnext | returned hnext =>
    rw [hnext] at hcall
    exact hcall
  | @resumed brace l' hnext _ hbrace =>
    rw [hnext] at hcall
    change Call l start (.ok brace) l' at hcall
    cases hcall with
    | finish _ hend => cases hbrace.symm.trans hend
    | token hready hsource hconfig hrunning _ hoffset hstop hne hspells hcomplains =>
      -- The brace is no syntax error: what has been reported starts before it.
      have hsilent : l'.diagnostics = l.diagnostics := by
        rw [Complains, if_neg (by simp [hbrace])] at hcomplains
        exact hcomplains
      have hreported : l'.ReportedBefore brace.offset := by
        intro d hd
        rw [hsilent] at hd
        exact hoffset ▸ h.reported.mono hle d hd
      rw [← hsource, ← hoffset] at hspells
      rw [← hoffset]
      exact (rescan_call hready hrunning hbrace hstop hspells hne hreported).of_eq hsource
        hconfig hsilent

theorem next_of_finished (hphase : l.phase = .finished) : l.next = (.ok l.endToken, l) := by
  rw [next, hphase]

theorem drive_of_finished (hphase : l.phase = .finished) (again : Bool) :
    l.drive again = (.ok l.endToken, l) := by
  have hkind : (l.endToken.kind == .operator .closeBrace) = false := rfl
  simp [drive, next_of_finished hphase, hkind]

theorem driven_of_finished (hphase : l.phase = .finished) (choices : List Bool) :
    l.driven choices = (List.replicate choices.length (.ok l.endToken), l) := by
  induction choices with
  | nil => rfl
  | cons again choices ih =>
    rw [driven, drive_of_finished hphase, ih]
    rfl

theorem rest_eq_driven (l : Lexer) :
    ∃ n, l.driven (List.replicate n false) =
      (l.rest.1.map .ok ++ (l.rest.2.1.map fun e => .error (.fatal e)).toList, l.rest.2.2) := by
  have hdrive : ∀ l : Lexer, l.drive false = (l.next.1.mapError .fatal, l.next.2) := by
    intro l
    unfold drive
    cases l.next with
    | mk result l' => cases result <;> rfl
  fun_induction rest l with
  | case1 l e l' hnext =>
    refine ⟨1, ?_⟩
    simp only [List.replicate_one, driven, hdrive, hnext]
    rfl
  | case2 l t l' hnext hfinished =>
    refine ⟨1, ?_⟩
    simp only [List.replicate_one, driven, hdrive, hnext]
    rfl
  | case3 l t l' hnext hfinished hlt tokens error? last hrest ih =>
    obtain ⟨n, hn⟩ := ih
    refine ⟨n + 1, ?_⟩
    rw [hrest] at hn
    simp only [List.replicate_succ, driven, hdrive, hnext, hn]
    rfl

end Lexis.Lexer
