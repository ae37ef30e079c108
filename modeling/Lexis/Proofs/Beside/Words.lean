import Lexis.Proofs.Beside.Basic

/-!
# Names, operators and comments agree

None of them looks at what is behind it, but for a line comment, which goes on up to a line
terminator or the end.
-/

namespace Lexis

open CharClass

namespace Scanner

variable {i j : Nat} {x y u : List Char} {c d : Cursor} {ch mark sign : Char}

/-- A name that ends within the common text ends there whatever is behind. -/
theorem nameText_append {more : List Char} (hy : Detached y)
    (hu : ch :: u = nameText ch (u ++ x) ++ more) :
    nameText ch (u ++ y) = nameText ch (u ++ x) := by
  have hsplit : u = (u ++ x).takeWhile isIdentContinue ++ more := (List.cons.inj hu).2
  have hrun : (((u ++ x).takeWhile isIdentContinue ++ more) ++ x).takeWhile isIdentContinue =
      (u ++ x).takeWhile isIdentContinue := by rw [← hsplit]
  have hsame := takeWhile_append_eq (y := y) hrun fun _ => hy.any_head? rfl rfl
  rw [← hsplit] at hsame
  rw [nameText, hsame, nameText]

theorem agree_name (h : Beside i j x y (ch :: u) c d) :
    Agree i j x y (SameLexeme i j) (name c) (name d) := by
  have htext : c.text = ch :: (u ++ x) := h.text_eq
  have htext' : d.text = ch :: (u ++ y) := h.text_eq'
  obtain ⟨c', hscan, hpass⟩ := name_eq_ok h.started htext
  obtain ⟨d', hscan', hpass'⟩ := name_eq_ok h.started' htext'
  rw [hscan]
  refine .of_passes h hpass fun more hu _ => ?_
  rw [nameText_append h.detached hu] at hscan' hpass'
  exact ⟨_, d', hscan', sameLexeme_of_plain i j rfl rfl, hpass'⟩

theorem agree_escapedName (h : Beside i j x y (mark :: sign :: ch :: u) c d) :
    Agree i j x y (SameLexeme i j) (escapedName c) (escapedName d) := by
  have htext : c.text = mark :: sign :: ch :: (u ++ x) := h.text_eq
  have htext' : d.text = mark :: sign :: ch :: (u ++ y) := h.text_eq'
  obtain ⟨c', hscan, hpass⟩ := escapedName_eq_ok h.started htext
  obtain ⟨d', hscan', hpass'⟩ := escapedName_eq_ok h.started' htext'
  rw [hscan]
  refine .of_passes h hpass fun more hu _ => ?_
  rw [nameText_append h.detached (List.cons.inj (List.cons.inj hu).2).2] at hscan' hpass'
  exact ⟨_, d', hscan', sameLexeme_of_plain i j rfl rfl, hpass'⟩

theorem agree_operator {op : Operator} (h : Beside i j x y u c d)
    (hop : op.spelling.toList <+: c.text) :
    Agree i j x y (SameLexeme i j) (operator op c) (operator op d) := by
  obtain ⟨c', hscan, hpass⟩ := operator_eq_ok h.started hop
  rw [hscan]
  refine .of_passes h hpass fun more hu _ => ?_
  have hop' : op.spelling.toList <+: d.text :=
    ⟨more ++ y, by rw [h.text_eq', hu, List.append_assoc]⟩
  obtain ⟨d', hscan', hpass'⟩ := operator_eq_ok h.started' hop'
  exact ⟨_, d', hscan', sameLexeme_of_plain i j rfl rfl, hpass'⟩

theorem agree_unexpected (problem : Char) (h : Beside i j x y (ch :: u) c d) :
    Agree i j x y (SameLexeme i j) (unexpected problem c) (unexpected problem d) := by
  obtain ⟨c', hscan, hpass⟩ := unexpected_eq_ok problem h.started h.text_eq
  obtain ⟨d', hscan', hpass'⟩ := unexpected_eq_ok problem h.started' h.text_eq'
  rw [hscan, hscan']
  refine .of_passes h hpass fun more hu _ => ⟨_, d', rfl, ?_, hpass'⟩
  simp only [SameLexeme, Lexeme.shift, Option.map_some, Problem.shift, Span.shift, h.index_eq,
    Nat.add_right_comm c.index, Nat.add_right_comm d.index, Pragmas.shift_none]

/-! ## Comments -/

theorem sameLexeme_of_comment (h : c.index + j = d.index + i) (text : List Char)
    (kind : TokenKind) (flags : TokenFlags) (crossesLine : Bool) :
    SameLexeme i j { kind, flags, pragmas := .ofComment c.index text, crossesLine }
      { kind, flags, pragmas := .ofComment d.index text, crossesLine } := by
  simp only [SameLexeme, Lexeme.shift, Pragmas.shift_ofComment, h, Option.map_none]

/-- A line comment goes on behind the common text if nothing there keeps it from that. -/
theorem lineText_append {more : List Char}
    (hline : (∀ ch ∈ u, isLineTerminator ch = false) → y.head?.all isLineTerminator = true)
    (hu : mark :: sign :: u = lineText mark sign (u ++ x) ++ more) :
    lineText mark sign (u ++ y) = lineText mark sign (u ++ x) := by
  have hsplit : u = (u ++ x).takeWhile (!isLineTerminator ·) ++ more :=
    (List.cons.inj (List.cons.inj hu).2).2
  have hrun : (((u ++ x).takeWhile (!isLineTerminator ·) ++ more) ++ x).takeWhile
      (!isLineTerminator ·) = (u ++ x).takeWhile (!isLineTerminator ·) := by rw [← hsplit]
  have hsame := takeWhile_append_eq (y := y) hrun fun hmore => by
    have hend := hline fun ch hch => by
      rw [hsplit, hmore, List.append_nil] at hch
      simpa using List.all_eq_true.1 List.all_takeWhile ch hch
    cases hhead : y.head? with
    | none => rfl
    | some ch =>
      rw [hhead] at hend
      simpa using hend
  rw [← hsplit] at hsame
  rw [lineText, hsame, lineText]

theorem agree_lineComment (doc : Bool) (h : Beside i j x y (mark :: sign :: u) c d)
    (hline : (∀ ch ∈ u, isLineTerminator ch = false) → y.head?.all isLineTerminator = true) :
    Agree i j x y (SameLexeme i j) (lineComment doc c) (lineComment doc d) := by
  have htext : c.text = mark :: sign :: (u ++ x) := h.text_eq
  have htext' : d.text = mark :: sign :: (u ++ y) := h.text_eq'
  obtain ⟨c', hscan, hpass⟩ := lineComment_eq_ok doc h.started htext
  obtain ⟨d', hscan', hpass'⟩ := lineComment_eq_ok doc h.started' htext'
  rw [hscan]
  refine .of_passes h hpass fun more hu _ => ?_
  rw [lineText_append hline hu] at hscan' hpass'
  exact ⟨_, d', hscan', sameLexeme_of_comment h.index_eq _ _ _ _, hpass'⟩

theorem agree_blockComment (legal : Bool) (h : Beside i j x y ('/' :: '*' :: u) c d) :
    Agree i j x y (SameLexeme i j) (blockComment legal c) (blockComment legal d) := by
  cases hscan : blockComment legal c with
  | ok lexeme c' =>
    obtain ⟨inner, rest, hbehind, hbody⟩ := commentBody_of_blockComment h.started h.text_eq hscan
    have htext : c.text = ('/' :: '*' :: (inner ++ ['*', '/'])) ++ rest := by
      rw [h.text_eq, List.cons_append, List.cons_append]
      exact congrArg (fun text => '/' :: '*' :: text) hbehind
    obtain ⟨c₁, heq, hpass⟩ := blockComment_eq_ok legal h.started htext hbody
    rw [hscan] at heq
    cases heq
    refine .of_passes h hpass fun more hu _ => ?_
    have htext' : d.text = ('/' :: '*' :: (inner ++ ['*', '/'])) ++ (more ++ y) := by
      rw [h.text_eq', hu, List.append_assoc]
    obtain ⟨d', hscan', hpass'⟩ := blockComment_eq_ok legal h.started' htext' hbody
    exact ⟨_, d', hscan', sameLexeme_of_comment h.index_eq _ _ _ _, hpass'⟩
  | error e c' =>
    intro hx hy
    have htext := h.text_eq_of_nil hx hy
    have he := blockComment_eq_error h.started hscan
    cases hscan' : blockComment legal d with
    | ok lexeme d' =>
      obtain ⟨inner, rest, hbehind, hbody⟩ :=
        commentBody_of_blockComment h.started' h.text_eq' hscan'
      have hcomment : c.text = ('/' :: '*' :: (inner ++ ['*', '/'])) ++ rest := by
        rw [← htext, h.text_eq', List.cons_append, List.cons_append]
        exact congrArg (fun text => '/' :: '*' :: text) hbehind
      obtain ⟨c₁, heq, -⟩ := blockComment_eq_ok legal h.started hcomment hbody
      rw [hscan] at heq
      cases heq
    | error e' d' =>
      refine ⟨e', d', rfl, ?_⟩
      rw [he, blockComment_eq_error h.started' hscan', htext, LexError.shift_atOffset,
        LexError.shift_atOffset, Nat.add_right_comm, h.index_eq, Nat.add_right_comm]

end Scanner

end Lexis
