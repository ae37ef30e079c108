import Lexis.LexedFile
import Lexis.Proofs.Beside.Calls
import Lexis.Proofs.Utf8.Parts

/-!
# A line feed separates

Lexing one text, a line feed and another text gives the tokens of the one and then those of the
other: no scanner tells the end of the input from a line feed, and behind it nothing of the first
text counts any more (`ofSource_lineFeed`).
-/

namespace Lexis

open CharClass

/-- The tokens at a place further on, with a line terminator before the first one if `newline` says
so. -/
def Token.movedAll (k : Nat) (newline : Bool) : List Token → List Token
  | [] => []
  | t :: tokens => t.moved k newline :: tokens.map (·.shift k)

theorem Token.movedAll_false (k : Nat) (tokens : List Token) :
    movedAll k false tokens = tokens.map (·.shift k) := by
  cases tokens with
  | nil => rfl
  | cons t tokens => rw [movedAll, moved_false, List.map_cons]

namespace Lexer

variable {k : Nat} {newline : Bool} {y gap u : List Char} {l l' m m' : Lexer}

/-! ## What is left of two files -/

/-- The rest of a file depends on what the next call comes to. -/
theorem rest_congr (h : l.next = m.next) : l.rest = m.rest := by
  rw [rest_eq, rest_eq, h]

/-- Where nothing is behind the text, the rest of one file is the rest of the other. -/
theorem rest_alike (hcalls : Alike k newline l m (l.next.1.mapError .fatal, l.next.2)
      (m.next.1.mapError .fatal, m.next.2)) :
    m.rest.1 = Token.movedAll k newline l.rest.1 ∧
      m.rest.2.1 = l.rest.2.1.map (·.shift k) ∧ Progress k l l.rest.2.2 m m.rest.2.2 := by
  generalize hm : (m.next.1.mapError Stop.fatal, m.next.2) = found at hcalls
  fun_induction rest l generalizing m newline found with
  | case1 l e l' hnext =>
    rw [hnext] at hcalls
    cases hcalls with
    | abort _ _ hprogress =>
      have hm : m.next = (.error (e.shift k), _) := eq_of_mapError hm
      rw [rest_eq m, hm]
      exact ⟨rfl, rfl, hprogress⟩
  | case2 l t l' hnext hfinished =>
    rw [hnext] at hcalls
    cases hcalls with
    | token _ hbeside =>
      exact absurd ((isFinished_eq l').1 hfinished) (phase_ne_finished hbeside.phase)
    | finish _ _ hfinished' hprogress =>
      have hm : m.next = (.ok (t.moved k newline), _) := eq_of_mapError hm
      rw [rest_eq m, hm]
      simp only [(isFinished_eq _).2 hfinished', if_true]
      exact ⟨rfl, rfl, hprogress⟩
  | case3 l t l' hnext hfinished hlt tokens error? last hrest ih =>
    rw [hnext] at hcalls
    cases hcalls with
    | finish _ hended => exact absurd ((isFinished_eq l').2 hended) hfinished
    | token _ hbeside hprogress =>
      have hm : m.next = (.ok (t.moved k newline), _) := eq_of_mapError hm
      have hrunning : ¬ Lexer.isFinished _ = true :=
        mt (isFinished_eq _).1 (phase_ne_finished hbeside.phase')
      obtain ⟨htokens, herror, hlater⟩ := ih _ rfl (next_alike hbeside)
      rw [hrest] at htokens herror hlater
      rw [rest_eq m, hm]
      simp only [if_neg hrunning]
      refine ⟨?_, herror, hprogress.trans hlater⟩
      rw [htokens, Token.movedAll_false]
      rfl

/-- The end of the one file is where the other one goes on. -/
theorem rest_beside (hy : y.head?.all isLineTerminator = true)
    (hcalls : CallsBeside 0 false y l m (l.next.1.mapError .fatal, l.next.2)
      (m.next.1.mapError .fatal, m.next.2))
    (hfatal : l.rest.2.1 = none) :
    ∃ (tokens : List Token) (last : Token) (gap : List Char) (l₁ m₁ : Lexer),
      l.rest.1 = tokens ++ [last] ∧ last.kind = .endOfInput ∧
        l.rest.2.2.pragmas = l₁.pragmas ∧ Beside 0 false y gap [] l₁ m₁ ∧
        Progress 0 l l₁ m m₁ ∧ m.rest = (tokens ++ m₁.rest.1, m₁.rest.2) := by
  generalize hm : (m.next.1.mapError Stop.fatal, m.next.2) = found at hcalls
  fun_induction rest l generalizing m found with
  | case1 => cases hfatal
  | case2 l t l' hnext hfinished =>
    rw [hnext] at hcalls
    cases hcalls with
    | token _ hbeside =>
      exact absurd ((isFinished_eq l').1 hfinished) (phase_ne_finished hbeside.phase)
    | @finish l₁ m₁ gap hbeside hprogress =>
      have hm : m.next = m₁.next := by
        rw [next_of_scanning hbeside.phase']
        exact eq_of_mapError hm
      exact ⟨[], _, gap, l₁, m₁, rfl, rfl, rfl, hbeside, hprogress, rest_congr hm⟩
  | case3 l t l' hnext hfinished hlt tokens error? last hrest ih =>
    rw [hnext] at hcalls
    cases hcalls with
    | finish => exact absurd rfl hfinished
    | token _ hbeside hprogress =>
      have hm : m.next = (.ok (t.moved 0 false), _) := eq_of_mapError hm
      have hrunning : ¬ Lexer.isFinished _ = true :=
        mt (isFinished_eq _).1 (phase_ne_finished hbeside.phase')
      rw [hrest] at ih
      obtain ⟨found, stop, gap, l₁, m₁, htokens, hstop, hpragmas, hbeside₁, hprogress₁, hlater⟩ :=
        ih hfatal _ rfl (next_beside hbeside (.inl hy))
      refine ⟨t :: found, stop, gap, l₁, m₁, congrArg (t :: ·) htokens, hstop, hpragmas, hbeside₁,
        hprogress.trans hprogress₁, ?_⟩
      rw [rest_eq m, hm]
      simp only [if_neg hrunning, hlater]
      rw [Token.moved_false, Token.shift_zero]
      rfl

theorem takeWhile_append_of_head? (hy : y.head?.all isLineTerminator = true) :
    (u ++ y).takeWhile (!isLineTerminator ·) = u.takeWhile (!isLineTerminator ·) := by
  have hbehind : y.takeWhile (!isLineTerminator ·) = [] := by
    cases y with
    | nil => rfl
    | cons ch y => exact List.takeWhile_cons_of_neg (by simpa using hy)
  rw [List.takeWhile_append, hbehind, List.append_nil]
  split
  · rename_i hall
    exact ((List.takeWhile_sublist _).eq_of_length hall).symm
  · rfl

/-- Behind the line feed the other lexer goes on as a fresh one begins. -/
theorem Beside.behind_lineFeed {b : Source} {config : LexerConfig}
    (h : Beside 0 false ('\n' :: Utf8.textFrom b.contents 0) gap [] l m)
    (hconfig : m.config = config) :
    Beside (l.cursor.index + 1) true [] (gap ++ ['\n']) (Utf8.textFrom b.contents 0)
      (Lexer.ofSource b config).begun m := by
  refine .begun h.ready' h.phase' hconfig .nil ?_ ?_ ?_ ?_
  · rw [Utf8.size_append, ← Nat.add_assoc, ← h.index_eq]
    rfl
  · rw [h.text_eq', List.append_nil, List.append_assoc]
    rfl
  · intro ch hch
    obtain hch | hch := List.mem_append.1 hch
    · exact h.blank ch hch
    · rw [List.mem_singleton.1 hch]
      rfl
  · rw [List.any_append]
    exact Bool.or_eq_true_iff.2 (.inr (Bool.or_true _))

section FirstToken

variable {a ab : Source} (config : LexerConfig)

theorem begun_beside (hdetached : Detached y)
    (htext : Utf8.textFrom ab.contents 0 = Utf8.textFrom a.contents 0 ++ y) :
    Beside 0 false y [] (Utf8.textFrom a.contents 0) (Lexer.ofSource a config).begun
      (Lexer.ofSource ab config).begun :=
  .begun (ready_begun (ready_ofSource ab config)) rfl rfl hdetached (index_begun ab config).symm
    ((text_begun ab config).trans htext) (List.forall_mem_nil _) rfl

theorem begun_progress (a ab : Source) : Progress 0 (Lexer.ofSource a config)
    (Lexer.ofSource a config).begun (Lexer.ofSource ab config) (Lexer.ofSource ab config).begun :=
  { Progress.refl 0 (Lexer.ofSource a config) (Lexer.ofSource ab config) with }

/-- The line of a script is the same first token of both files. -/
theorem first_beside_of_script (hdetached : Detached y)
    (hy : y.head?.all isLineTerminator = true)
    (htext : Utf8.textFrom ab.contents 0 = Utf8.textFrom a.contents 0 ++ y)
    (hscript : ['#', '!'] <+: Utf8.textFrom a.contents 0) :
    CallsBeside 0 false y (Lexer.ofSource a config) (Lexer.ofSource ab config)
      ((Lexer.ofSource a config).next.1.mapError .fatal, (Lexer.ofSource a config).next.2)
      ((Lexer.ofSource ab config).next.1.mapError .fatal, (Lexer.ofSource ab config).next.2) := by
  have hbeside := begun_beside config hdetached htext
  have hscript' : ['#', '!'] <+: Utf8.textFrom ab.contents 0 := by
    rw [htext]
    exact hscript.trans (List.prefix_append _ _)
  obtain ⟨c, hline, hnext⟩ := next_ofSource_of_script config hscript
  obtain ⟨d, hline', hnext'⟩ := next_ofSource_of_script config hscript'
  rw [htext, takeWhile_append_of_head? hy] at hline'
  obtain ⟨_, -, hcall⟩ := next_call (ready_ofSource a config) (by simp [Lexer.ofSource])
  obtain ⟨_, -, hcall'⟩ := next_call (ready_ofSource ab config) (by simp [Lexer.ofSource])
  rw [hnext] at hcall ⊢
  rw [hnext'] at hcall' ⊢
  have hfirst : (Lexer.ofSource a config).begun.cursor.index =
      (Lexer.ofSource ab config).begun.cursor.index := hbeside.index_eq
  have hindex : c.index = d.index := by
    rw [hline.index_eq, hline'.index_eq, hfirst]
  have htoken : tokenOf { kind := .hashbang } 0 false d =
      (tokenOf { kind := .hashbang } 0 false c).moved 0 false := by
    rw [Token.moved_false, Token.shift_zero, tokenOf, tokenOf, hindex]
  have hsplit := hline.text_eq
  rw [hbeside.text_eq] at hsplit
  have hrest : d.text = c.text ++ y := by
    refine hline'.text_eq_of_append (hbeside.text_eq'.trans ?_)
    rw [List.nil_append, ← List.append_assoc, ← hsplit]
  have hbehind : Beside 0 false y [] c.text
      { (Lexer.ofSource a config).begun with cursor := c }
      { (Lexer.ofSource ab config).begun with cursor := d } :=
    { hbeside with
      ready := (hcall.ready rfl).1
      ready' := (hcall'.ready rfl).1
      index_eq := hindex
      text_eq := rfl
      text_eq' := hrest }
  show CallsBeside 0 false y _ _ (.ok (tokenOf { kind := .hashbang } 0 false c), _)
    (.ok (tokenOf { kind := .hashbang } 0 false d), _)
  rw [htoken]
  exact .token (hcall.ready rfl).2 hbehind { begun_progress config a ab with }

/-- The first tokens of two files that begin alike. -/
theorem first_beside (hdetached : Detached y) (hy : y.head?.all isLineTerminator = true)
    (htext : Utf8.textFrom ab.contents 0 = Utf8.textFrom a.contents 0 ++ y) :
    CallsBeside 0 false y (Lexer.ofSource a config) (Lexer.ofSource ab config)
      ((Lexer.ofSource a config).next.1.mapError .fatal, (Lexer.ofSource a config).next.2)
      ((Lexer.ofSource ab config).next.1.mapError .fatal, (Lexer.ofSource ab config).next.2) := by
  by_cases hscript : ['#', '!'] <+: Utf8.textFrom a.contents 0
  · exact first_beside_of_script config hdetached hy htext hscript
  · have hplain : ¬ ['#', '!'] <+: Utf8.textFrom ab.contents 0 := by
      rw [htext]
      exact mt (hdetached.prefix_of_prefix_append (by simp)) hscript
    rw [next_ofSource config hscript, next_ofSource config hplain]
    exact (next_beside (begun_beside config hdetached htext) (.inl hy)).after
      (begun_progress config a ab)

end FirstToken

end Lexer

/-- Of a text, a line feed and a text that does not begin like a script, the tokens are those of the
first text up to its end and those of the second one, unless the first text has an error that ends
its scan. -/
theorem ofSource_lineFeed (a b ab : Source) (config : LexerConfig)
    (hab : ab.contents = a.contents ++ "\n".toUTF8 ++ b.contents)
    (ha : a.contents.IsValidUTF8) (hfatal : (LexedFile.ofSource a config).fatal? = none)
    (hb : ¬ ['#', '!'] <+: Utf8.textFrom b.contents 0) :
    ∃ (tokens : List Token) (last : Token),
      (LexedFile.ofSource a config).tokens = tokens ++ [last] ∧ last.kind = .endOfInput ∧
      (LexedFile.ofSource ab config).tokens =
        tokens ++ Token.movedAll (a.size + 1) true (LexedFile.ofSource b config).tokens ∧
      (LexedFile.ofSource ab config).fatal? =
        (LexedFile.ofSource b config).fatal?.map (·.shift (a.size + 1)) ∧
      (LexedFile.ofSource ab config).pragmas.sourceMappingUrl? =
        ((LexedFile.ofSource b config).pragmas.sourceMappingUrl?.map (·.shift (a.size + 1))).or
          (LexedFile.ofSource a config).pragmas.sourceMappingUrl? ∧
      (LexedFile.ofSource ab config).pragmas.edition? =
        ((LexedFile.ofSource b config).pragmas.edition?.map (·.shift (a.size + 1))).or
          (LexedFile.ofSource a config).pragmas.edition? := by
  have hfeed : "\n".toUTF8 = ['\n'].utf8Encode := rfl
  have htext : Utf8.textFrom ab.contents 0 =
      Utf8.textFrom a.contents 0 ++ '\n' :: Utf8.textFrom b.contents 0 := by
    rw [hab, ByteArray.append_assoc, (Utf8.textFrom_append_of_isValidUTF8 ha _).2,
      (Utf8.textFrom_append_of_isValidUTF8 ⟨['\n'], hfeed⟩ _).2, hfeed, Utf8.textFrom_utf8Encode]
    rfl
  have hcalls := Lexer.first_beside config (.lineFeed _) rfl htext
  obtain ⟨tokens, last, gap, l, m, htokens, hlast, hpragmas, hbeside, hprogress, hrest⟩ :=
    Lexer.rest_beside rfl hcalls hfatal
  have hsource : l.source = a := hprogress.source_eq
  have hend : l.cursor.index = a.size := by
    rw [hbeside.ready.index_eq_size hbeside.text_eq (hsource ▸ ha), hsource]
  have hconfig : m.config = config := hbeside.config_eq.trans hprogress.config_eq
  have hbehind := hbeside.behind_lineFeed hconfig
  rw [hend] at hbehind
  obtain ⟨hmoved, herror, hlater⟩ := Lexer.rest_alike (Lexer.next_alike hbehind)
  rw [← Lexer.rest_congr (Lexer.next_ofSource config hb)] at hmoved herror hlater
  obtain ⟨p, hp, hp'⟩ := hprogress.pragmas
  obtain ⟨q, hq, hq'⟩ := hlater.pragmas
  have ha_pragmas : (LexedFile.ofSource a config).pragmas = p :=
    (hpragmas.trans hp).trans (Pragmas.none_update p)
  have hb_pragmas : (LexedFile.ofSource b config).pragmas = q := hq.trans (Pragmas.none_update q)
  have hab_pragmas : (LexedFile.ofSource ab config).pragmas = p.update (q.shift (a.size + 1)) := by
    have hlast : (LexedFile.ofSource ab config).pragmas = m.rest.2.2.pragmas :=
      congrArg (fun found => found.2.2.pragmas) hrest
    rw [hlast, hq', hp', Pragmas.shift_zero]
    exact congrArg (Pragmas.update · _) (Pragmas.none_update p)
  have hab_tokens : (LexedFile.ofSource ab config).tokens = tokens ++ m.rest.1 :=
    congrArg Prod.fst hrest
  have hab_fatal : (LexedFile.ofSource ab config).fatal? = m.rest.2.1 :=
    congrArg (fun found => found.2.1) hrest
  rw [hmoved] at hab_tokens
  rw [herror] at hab_fatal
  refine ⟨tokens, last, htokens, hlast, hab_tokens, hab_fatal, ?_, ?_⟩
  · rw [hab_pragmas, ha_pragmas, hb_pragmas]
    rfl
  · rw [hab_pragmas, ha_pragmas, hb_pragmas]
    rfl

/-- A script that ends in a line comment. -/
def upper : Source := ⟨"upper", "#!a\nx? // @edition 1".toUTF8, 0, by decide⟩

/-- A number and a string that does not end. -/
def lower : Source := ⟨"lower", ".5 /* @edition 2 */ \"".toUTF8, 1, by decide⟩

def upperAndLower : Source :=
  ⟨"both", "#!a\nx? // @edition 1\n.5 /* @edition 2 */ \"".toUTF8, 2, by decide⟩

theorem ofSource_lineFeed_upperAndLower :
    ∃ tokens last, (LexedFile.ofSource upper {}).tokens = tokens ++ [last] ∧
      last.kind = .endOfInput ∧
      (LexedFile.ofSource upperAndLower {}).tokens =
        tokens ++ Token.movedAll 21 true (LexedFile.ofSource lower {}).tokens ∧
      (LexedFile.ofSource upperAndLower {}).fatal? =
        (LexedFile.ofSource lower {}).fatal?.map (·.shift 21) := by
  have hvalid : upper.contents.IsValidUTF8 := ⟨"#!a\nx? // @edition 1".toList, rfl⟩
  obtain ⟨tokens, last, hupper, hlast, htokens, hfatal, -⟩ :=
    ofSource_lineFeed upper lower upperAndLower {} rfl hvalid (by decide +kernel)
      (by decide +kernel)
  exact ⟨tokens, last, hupper, hlast, htokens, hfatal⟩

end Lexis
