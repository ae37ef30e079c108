import Lexis.Proofs.Lexer.Driven

/-!
# Tokens tile their source

With comments kept, the tokens of a run lie one behind another with nothing but whitespace between
them, each of them is text, and the end stands where the source stops being text (`driven_tiles`).
Every token but the end takes up a byte, so that lexing a file comes to its end.
-/

namespace Lexis

open Utf8 (IsBoundary)

/-- What the results of a run say of the bytes from an offset on, up to the first end or error. -/
def Tiles (bytes : ByteArray) : (offset : Nat) → List (Except Stop Token) → Prop
  | _, [] => True
  | _, .error stop :: _ => ∃ e, stop = .fatal e
  | offset, .ok t :: results =>
    Blank bytes offset t.offset ∧ IsBoundary bytes t.offset ∧ IsBoundary bytes t.stop ∧
      (bytes.extract t.offset t.stop).IsValidUTF8 ∧
      if t.kind = .endOfInput then t.len = 0 ∧ IsGreatest {n | IsBoundary bytes n} t.offset
      else 1 ≤ t.len ∧ Tiles bytes t.stop results

namespace Lexer

variable {l : Lexer}

theorem isBoundary_of_gap {keepComments : Bool} {start : Nat} (h : l.Ready)
    (hgap : Gap l.source.contents keepComments l.cursor.index start) :
    IsBoundary l.source.contents start := by
  obtain ⟨text, htext⟩ := hgap.spells h.cursor.boundary.1
  exact h.cursor.boundary.of_spells htext

theorem one_le_len {bytes : ByteArray} {t : Token} {text : List Char} (hne : text ≠ [])
    (hspells : Utf8.Spells bytes t.offset t.stop text) : 1 ≤ t.len := by
  have hstop : t.offset + t.len = t.offset + Utf8.size text := hspells.stop_eq
  have hlength := Utf8.length_le_size text
  have hpos := List.length_pos_iff.2 hne
  omega

theorem isGreatest_of_text_eq_nil {bytes : ByteArray} {start : Nat} (h : IsBoundary bytes start)
    (htext : Utf8.textFrom bytes start = []) : IsGreatest {n | IsBoundary bytes n} start := by
  have hend := (Utf8.spells_validEnd h.1).stop_eq
  rw [htext, Utf8.size_nil, Nat.add_zero, h.validEnd_eq] at hend
  rw [← hend]
  exact Utf8.isGreatest_validEnd bytes

theorem tiles_driven (h : l.Ready) (hphase : l.phase ≠ .finished)
    (hkeep : l.config.keepComments = true) (choices : List Bool) :
    Tiles l.source.contents l.cursor.index (l.driven choices).1 := by
  induction choices generalizing l with
  | nil => trivial
  | cons again choices ih =>
    obtain ⟨start, hgap, hcall⟩ := drive_call h hphase again
    have hstart := isBoundary_of_gap h hgap
    rw [hkeep] at hgap
    have hblank := hgap.blank h.cursor.boundary.1
    rw [driven]
    generalize (l.drive again).1 = result at *
    generalize (l.drive again).2 = l' at *
    cases hcall with
    | @token t _ text hready hsource hconfig hrunning hkind hoffset hstop hne hspells _ =>
      have hstop' : IsBoundary l.source.contents t.stop := hstart.of_spells hspells
      have hrest := ih hready (phase_ne_finished hrunning) (hconfig ▸ hkeep)
      rw [hsource, ← hstop] at hrest
      rw [← hoffset] at hblank hstart hspells
      refine ⟨hblank, hstart, hstop', hspells.isValidUTF8, ?_⟩
      rw [if_neg hkind]
      exact ⟨one_le_len hne hspells, hrest⟩
    | @finish t _ _ hkind hoffset hlen htext _ =>
      have hstop : t.stop = t.offset := by rw [Token.stop, hlen, Nat.add_zero]
      rw [← hoffset] at hblank hstart htext
      refine ⟨hblank, hstart, hstop ▸ hstart, ?_, ?_⟩
      · rw [hstop]
        exact (Utf8.Spells.refl hstart.1).isValidUTF8
      · rw [if_pos hkind]
        exact ⟨hlen, isGreatest_of_text_eq_nil hstart htext⟩
    | @abort e _ _ _ _ => exact ⟨e, rfl⟩

theorem index_le_validEnd (h : l.Ready) :
    l.cursor.index ≤ Utf8.validEnd l.source.contents 0 :=
  (Utf8.isGreatest_validEnd l.source.contents).2 h.cursor.boundary

/-- The tokens of a file fit into its text, and the last one is the end unless there is an error. -/
theorem rest_ends (h : l.Ready) (hphase : l.phase ≠ .finished) :
    l.cursor.index + l.rest.1.length ≤ Utf8.validEnd l.source.contents 0 + 1 ∧
      ((∃ t, l.rest.1.getLast? = some t ∧ t.kind = .endOfInput) ↔ l.rest.2.1 = none) := by
  fun_induction rest l with
  | case1 l e l' hnext =>
    refine ⟨Nat.le_succ_of_le (index_le_validEnd h), ?_⟩
    simp
  | case2 l t l' hnext hfinished =>
    obtain ⟨start, -, hcall⟩ := next_call h hphase
    rw [hnext] at hcall
    refine ⟨Nat.succ_le_succ (index_le_validEnd h), ?_⟩
    change Call l start (.ok t) l' at hcall
    cases hcall with
    | token _ _ _ hrunning => simp [isFinished, hrunning] at hfinished
    | finish _ hkind => simp [hkind]
  | case3 l t l' hnext hfinished hlt tokens error? last hrest ih =>
    obtain ⟨start, hgap, hcall⟩ := next_call h hphase
    have hle := hgap.le h.cursor.boundary.1
    rw [hnext] at hcall
    change Call l start (.ok t) l' at hcall
    cases hcall with
    | finish hended => simp [isFinished, hended] at hfinished
    | token hready hsource _ hrunning hkind hoffset hstop hne hspells =>
      rw [← hoffset] at hspells hle
      have hlen := one_le_len hne hspells
      have hnext' : t.offset + t.len = l'.cursor.index := hstop
      obtain ⟨hbound, hlast⟩ := ih hready (phase_ne_finished hrunning)
      rw [hrest] at hbound hlast
      rw [hsource] at hbound
      refine ⟨?_, ?_⟩
      · simp only [List.length_cons]
        simp only at hbound
        omega
      · rw [← hlast]
        cases tokens with
        | nil => simp [hkind]
        | cons first tokens => simp

end Lexer

/-- The tokens of every driven run tile the source. Lexing a file returns at most as many tokens as
there are bytes of text, and one more; the last one is the end unless there is an error. -/
theorem driven_tiles (source : Source) (config : LexerConfig) (choices : List Bool) :
    Tiles source.contents 0
        ((Lexer.ofSource source { config with keepComments := true }).driven choices).1 ∧
      (∃ n, IsGreatest {m | IsBoundary source.contents m} n ∧
        (LexedFile.ofSource source { config with keepComments := true }).tokens.length ≤ n + 1) ∧
      ((∃ t, (LexedFile.ofSource source { config with keepComments := true }).tokens.getLast? =
          some t ∧ t.kind = .endOfInput) ↔
        (LexedFile.ofSource source { config with keepComments := true }).fatal? = none) := by
  have hready := Lexer.ready_ofSource source { config with keepComments := true }
  have hindex : (Lexer.ofSource source { config with keepComments := true }).cursor.index = 0 :=
    (Lexer.At.ofSource source config.lookaheadCapacity).2
  have htiles := Lexer.tiles_driven hready nofun rfl choices
  obtain ⟨hlength, hlast⟩ := Lexer.rest_ends hready nofun
  rw [hindex] at htiles hlength
  rw [Nat.zero_add] at hlength
  exact ⟨htiles, ⟨_, Utf8.isGreatest_validEnd source.contents, hlength⟩, hlast⟩

end Lexis
