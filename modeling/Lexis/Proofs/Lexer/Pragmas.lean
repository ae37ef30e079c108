import Lexis.Proofs.Lexer.Reached
import Lexis.Proofs.Lexer.Skipping
import Lexis.Proofs.Pragma.Occurrences

/-!
# The pragmas of a file

A comment of which the lexer is through leaves its pragmas in force, and those of earlier comments
where it has none. Hence each pragma of a file is the first one in the last comment that has it
(`LexedFile.ofSource_pragmas`), whether comments are kept or skipped.
-/

namespace Lexis

theorem Scanner.CommentParts.opened {kind : TokenKind} {body closing : List Char}
    (h : CommentParts kind body closing) : ['/', '/'] <+: body ∨ ['/', '*'] <+: body := by
  cases h with
  | line hopened => exact .inl hopened
  | block hopened => exact .inr hopened

namespace Token

variable {t : Token} {bytes : ByteArray} {body closing : List Char}

/-- The text of a comment, without the delimiter that closes a block comment. -/
def commentBody (t : Token) (bytes : ByteArray) : List Char :=
  let text := (t.text bytes).toList
  if t.kind = .blockComment then text.take (text.length - 2) else text

/-- The pragmas in the text of a comment. -/
def pragmas (t : Token) (bytes : ByteArray) : Pragmas :=
  .ofComment t.offset (t.commentBody bytes)

theorem commentBody_of_parts (hparts : Scanner.CommentParts t.kind body closing)
    (hspells : Utf8.Spells bytes t.offset t.stop (body ++ closing)) :
    t.commentBody bytes = body := by
  rw [commentBody, text_of_spells hspells, String.toList_ofList]
  generalize t.kind = kind at hparts
  cases hparts with
  | line => exact List.append_nil body
  | block => simp

end Token

namespace Lexer

variable {source : Source} {l : Lexer} {t : Token}

/-- A comment is spelled by its body and what closes it. -/
theorem Origin.exists_commentParts (h : Origin source t) (hcomment : t.kind.isComment = true) :
    ∃ body closing, Scanner.CommentParts t.kind body closing ∧
      Utf8.Spells source.contents t.offset t.stop (body ++ closing) := by
  have hscanned : t.kind ∉ [TokenKind.endOfInput, .hashbang, .templateMiddle, .templateTail] := by
    intro hmem
    have hnone : ∀ kind ∈ [TokenKind.endOfInput, .hashbang, .templateMiddle, .templateTail],
        kind.isComment = false := by decide
    exact Bool.eq_false_iff.1 (hnone t.kind hmem) hcomment
  obtain ⟨c, c', ch, lexeme, newline, hat, hcur, hscan, rfl⟩ := h.exists_scan hscanned
  obtain ⟨body, closing, htells⟩ := tellsComment_of_scanAt hcur hscan hcomment
  exact ⟨body, closing, htells.parts, hat.spells_tokenOf htells.passes newline⟩

/-! ## One call -/

/-- The pragmas in force behind a result, `former` being those before it. -/
def pragmasBehind (bytes : ByteArray) (former : Pragmas) : Except LexError Token → Pragmas
  | .ok t => if t.kind.isComment then former.update (t.pragmas bytes) else former
  | .error _ => former

theorem pragmas_of_scanAt {c c' : Cursor} {ch : Char} {lexeme : Lexeme} (hat : At source c)
    (hcur : c.current = .scalar ch) (hscan : scanAt c ch = .ok lexeme c') (newline : Bool)
    (former : Pragmas) : former.update lexeme.pragmas =
      pragmasBehind source.contents former (.ok (tokenOf lexeme c.index newline c')) := by
  rw [pragmasBehind]
  split
  · rename_i hcomment
    obtain ⟨body, closing, htells⟩ := tellsComment_of_scanAt hcur hscan hcomment
    have hbody : (tokenOf lexeme c.index newline c').commentBody source.contents = body :=
      Token.commentBody_of_parts htells.parts (hat.spells_tokenOf htells.passes newline)
    rw [htells.pragmas_eq, Token.pragmas, hbody]
    rfl
  · rename_i hcomment
    rw [(bare_of_scanAt hscan).pragmas_eq (eq_false_of_ne_true hcomment)]
    rfl

theorem pragmas_scan (h : At l.source l.cursor) (hkeep : l.config.keepComments = true) :
    l.scan.2.pragmas = pragmasBehind l.source.contents l.pragmas l.scan.1 := by
  obtain ⟨hgap, -⟩ := skipWhitespace_eq l.newlineBefore h.started
  generalize hskip : skipWhitespace l.newlineBefore l.cursor = skipped at hgap
  obtain ⟨newline, c⟩ := skipped
  by_cases hscalar : ∃ ch, c.current = .scalar ch
  · obtain ⟨ch, hcur⟩ := hscalar
    cases hscan : scanAt c ch with
    | error e c' =>
      rw [scan_of_error hskip hcur hscan]
      exact pragmas_report ..
    | ok lexeme c' =>
      have hkept : (lexeme.kind.isComment && !l.config.keepComments) = false := by
        rw [hkeep, Bool.not_true, Bool.and_false]
      rw [scan_of_token hskip hcur hscan hkept, ← pragmas_of_scanAt (h.of_passes hgap) hcur hscan]
      exact pragmas_accept ..
  · rw [scan_of_not_scalar hskip fun ch hcur => hscalar ⟨ch, hcur⟩]
    rfl

theorem pragmas_next (h : l.Ready) (hkeep : l.config.keepComments = true) :
    l.next.2.pragmas = pragmasBehind l.source.contents l.pragmas l.next.1 := by
  cases hphase : l.phase with
  | finished =>
    rw [next_of_finished hphase]
    rfl
  | scanning =>
    rw [next_of_scanning hphase]
    exact pragmas_scan h.cursor hkeep
  | start =>
    rw [next_of_start hphase]
    split
    · rfl
    · exact pragmas_scan (l := l.begun) (ready_begun h).cursor hkeep

/-! ## The rest of a file -/

/-- Of the comments up to the end or to an error, each leaves its pragmas in force. -/
theorem pragmas_rest (h : l.Ready) (hphase : l.phase ≠ .finished)
    (hkeep : l.config.keepComments = true) :
    l.rest.2.2.pragmas = (l.rest.1.filter (·.kind.isComment)).foldl
      (fun former t => former.update (t.pragmas l.source.contents)) l.pragmas := by
  rw [List.foldl_filter]
  have hbehind := pragmas_next h hkeep
  fun_induction rest l with
  | case1 l e l' hnext =>
    rw [hnext] at hbehind
    exact hbehind
  | case2 l t l' hnext hfinished =>
    rw [hnext] at hbehind
    exact hbehind
  | case3 l t l' hnext hfinished hlt tokens error? last hrest ih =>
    obtain ⟨start, -, hcall⟩ := next_call h hphase
    rw [hnext] at hcall hbehind
    change Call l start (.ok t) l' at hcall
    cases hcall with
    | finish hended => exact absurd ((isFinished_eq l').2 hended) hfinished
    | token hready hsource hconfig hrunning =>
      have hkeep' : l'.config.keepComments = true := hconfig ▸ hkeep
      have hlater := ih hready (phase_ne_finished hrunning) hkeep' (pragmas_next hready hkeep')
      rw [hrest, hsource] at hlater
      have hbehind : l'.pragmas = pragmasBehind l.source.contents l.pragmas (.ok t) := hbehind
      rw [hbehind] at hlater
      exact hlater

theorem index_le_of_next {l' : Lexer} (h : l.Ready) (hphase : l.phase ≠ .finished)
    (hnext : l.next = (.ok t, l')) : l.cursor.index ≤ t.offset := by
  obtain ⟨start, hgap, hcall⟩ := next_call h hphase
  have hle := hgap.le h.cursor.boundary.1
  rw [hnext] at hcall
  change Call l start (.ok t) l' at hcall
  cases hcall with
  | token _ _ _ _ _ hoffset => exact hoffset ▸ hle
  | finish _ _ hoffset => exact hoffset ▸ hle

/-- The tokens of a file lie one behind another. -/
theorem ordered_rest (h : l.Ready) (hphase : l.phase ≠ .finished) :
    (∀ t ∈ l.rest.1, l.cursor.index ≤ t.offset) ∧
      l.rest.1.Pairwise fun t t' => t.stop ≤ t'.offset := by
  fun_induction rest l with
  | case1 => exact ⟨List.forall_mem_nil _, .nil⟩
  | case2 l t l' hnext =>
    have hle := index_le_of_next h hphase hnext
    exact ⟨List.forall_mem_singleton.2 hle, List.pairwise_singleton _ _⟩
  | case3 l t l' hnext hfinished hlt tokens error? last hrest ih =>
    obtain ⟨start, -, hcall⟩ := next_call h hphase
    have hle := index_le_of_next h hphase hnext
    rw [hnext] at hcall
    change Call l start (.ok t) l' at hcall
    cases hcall with
    | finish hended => exact absurd ((isFinished_eq l').2 hended) hfinished
    | token hready _ _ hrunning _ _ hstop =>
      obtain ⟨hbehind, hordered⟩ := ih hready (phase_ne_finished hrunning)
      rw [hrest] at hbehind hordered
      have hlong : t.offset ≤ t.stop := Nat.le_add_right _ _
      rw [List.forall_mem_cons, List.pairwise_cons]
      refine ⟨⟨hle, fun t' ht' => ?_⟩, fun t' ht' => hstop ▸ hbehind t' ht', hordered⟩
      exact Nat.le_trans hle (Nat.le_trans hlong (hstop ▸ hbehind t' ht'))

theorem origin_of_mem_rest (h : l.Ready) (hphase : l.phase ≠ .finished) (ht : t ∈ l.rest.1) :
    Origin l.source t := by
  obtain ⟨n, hdriven⟩ := rest_eq_driven l
  refine origin_of_mem_driven h hphase (List.replicate n false) ?_
  rw [hdriven]
  exact List.mem_append_left _ (List.mem_map_of_mem ht)

end Lexer

/-! ## The pragmas of a file -/

theorem Pragma.get?_update (pragma : Pragma) (former found : Pragmas) :
    pragma.get? (former.update found) = (pragma.get? found).or (pragma.get? former) := by
  cases pragma with
  | sourceMappingUrl => rfl
  | edition => rfl

/-- The last comment that has the pragma settles it. -/
theorem Pragma.get?_foldl_update (pragma : Pragma) (bytes : ByteArray) (comments : List Token)
    (former : Pragmas) :
    pragma.get? (comments.foldl (fun former t => former.update (t.pragmas bytes)) former) =
      (comments.reverse.findSome? fun t => pragma.get? (t.pragmas bytes)).or
        (pragma.get? former) := by
  induction comments generalizing former with
  | nil => rfl
  | cons t comments ih =>
    rw [List.foldl_cons, ih, pragma.get?_update, List.reverse_cons, List.findSome?_append,
      List.findSome?_singleton, Option.or_assoc]

theorem findSome?_reverse_eq_some_iff {α β : Type} {f : α → Option β} {l : List α} {b : β} :
    l.reverse.findSome? f = some b ↔ ∃ earlier a later, l = earlier ++ a :: later ∧
      f a = some b ∧ ∀ a' ∈ later, f a' = none := by
  rw [List.findSome?_eq_some_iff]
  constructor
  · rintro ⟨later, a, earlier, hl, ha, hlater⟩
    refine ⟨earlier.reverse, a, later.reverse, ?_, ha, by simpa using hlater⟩
    rw [← List.reverse_reverse l, hl]
    simp
  · rintro ⟨earlier, a, later, rfl, ha, hlater⟩
    exact ⟨later.reverse, a, earlier.reverse, by simp, ha, by simpa using hlater⟩

namespace LexedFile

/-- The comments that a lexer of the source gets through, in their order: one that keeps comments
returns them. -/
def completedComments (source : Source) (config : LexerConfig) : List Token :=
  (ofSource source { config with keepComments := true }).tokens.filter (·.kind.isComment)

variable {source : Source} {config : LexerConfig} {pragma : Pragma} {t : Token}
  {arg : PragmaArgument}

theorem pragmas_skipComments (source : Source) (config : LexerConfig) :
    (ofSource source config).pragmas =
      (ofSource source { config with keepComments := true }).pragmas := by
  cases hkeep : config.keepComments with
  | true =>
    have hsame : { config with keepComments := true } = config := by rw [← hkeep]
    rw [hsame]
  | false =>
    have hready := Lexer.ready_ofSource source { config with keepComments := true }
    obtain ⟨newline, hrest⟩ := Lexer.rest_skipping hready nofun rfl []
    have hsame : { config with keepComments := false } = config := by rw [← hkeep]
    have hskipping : (Lexer.ofSource source { config with keepComments := false }).rest = _ := hrest
    rw [hsame] at hskipping
    simp only [LexedFile.ofSource, hskipping]
    rfl

theorem pragmas_eq_foldl (source : Source) (config : LexerConfig) :
    (ofSource source config).pragmas = (completedComments source config).foldl
      (fun former t => former.update (t.pragmas source.contents)) {} := by
  rw [pragmas_skipComments]
  exact Lexer.pragmas_rest (Lexer.ready_ofSource source _) nofun rfl

theorem get?_pragmas_eq (source : Source) (config : LexerConfig) (pragma : Pragma) :
    pragma.get? (ofSource source config).pragmas =
      (completedComments source config).reverse.findSome? fun t =>
        pragma.get? (t.pragmas source.contents) := by
  have hnone : pragma.get? {} = none := by cases pragma <;> rfl
  rw [pragmas_eq_foldl, pragma.get?_foldl_update, hnone, Option.or_none]

theorem exists_commentParts (ht : t ∈ completedComments source config) :
    ∃ closing, Scanner.CommentParts t.kind (t.commentBody source.contents) closing ∧
      Utf8.Spells source.contents t.offset t.stop
        (t.commentBody source.contents ++ closing) := by
  obtain ⟨hmem, hcomment⟩ := List.mem_filter.1 ht
  have hready := Lexer.ready_ofSource source { config with keepComments := true }
  have horigin : Lexer.Origin source t := Lexer.origin_of_mem_rest hready nofun hmem
  obtain ⟨body, closing, hparts, hspells⟩ := horigin.exists_commentParts hcomment
  rw [Token.commentBody_of_parts hparts hspells]
  exact ⟨closing, hparts, hspells⟩

theorem get?_comment_eq_some_iff (ht : t ∈ completedComments source config) :
    pragma.get? (t.pragmas source.contents) = some arg ↔
      pragma.Finds t.offset (t.commentBody source.contents) arg := by
  obtain ⟨closing, hparts, -⟩ := exists_commentParts ht
  exact Pragma.get?_ofComment_eq_some_iff hparts.opened

theorem get?_comment_eq_none_iff (ht : t ∈ completedComments source config) :
    pragma.get? (t.pragmas source.contents) = none ↔
      ∀ before lead, ¬ pragma.OccursIn (t.commentBody source.contents) before lead := by
  obtain ⟨closing, hparts, -⟩ := exists_commentParts ht
  exact Pragma.get?_ofComment_eq_none_iff hparts.opened

theorem isSome_get?_comment_iff (ht : t ∈ completedComments source config) :
    (pragma.get? (t.pragmas source.contents)).isSome = true ↔
      ∃ before lead, pragma.OccursIn (t.commentBody source.contents) before lead := by
  rw [Option.isSome_iff_ne_none, ne_eq, get?_comment_eq_none_iff ht]
  simp only [not_forall, not_not]

/-- What is found in a comment is spelled where its span says, inside the comment. -/
theorem span_of_finds (ht : t ∈ completedComments source config)
    (hfinds : pragma.Finds t.offset (t.commentBody source.contents) arg) :
    t.offset ≤ arg.span.start ∧ arg.span.stop ≤ t.stop ∧
      arg.span.slice? source.contents = some arg.text.toUTF8 := by
  obtain ⟨closing, -, hspells⟩ := exists_commentParts ht
  obtain ⟨before, lead, word, -, hword, rfl⟩ := hfinds
  obtain ⟨rest, htext, -⟩ := hword.ends
  rw [htext, List.append_assoc, List.append_assoc] at hspells
  obtain ⟨hspelled, hbehind⟩ := hspells.split.2.split
  exact ⟨Nat.le_add_right _ _, hbehind.start_le, hspelled.slice?_eq⟩

/-- A pragma of a file is in force if it occurs in a comment that the lexer gets through, whether
comments are kept or not. Then it is the first one in the last such comment, up to whitespace or to
the end of the comment's body, and its span says where it is spelled in that comment. -/
theorem ofSource_pragmas (source : Source) (config : LexerConfig) (pragma : Pragma) :
    (completedComments source config).Pairwise (fun t t' => t.stop ≤ t'.offset) ∧
    ((pragma.get? (ofSource source config).pragmas).isSome = true ↔
      ∃ t ∈ completedComments source config, ∃ before lead,
        pragma.OccursIn (t.commentBody source.contents) before lead) ∧
    (∀ arg, pragma.get? (ofSource source config).pragmas = some arg ↔
      ∃ earlier t later, completedComments source config = earlier ++ t :: later ∧
        pragma.Finds t.offset (t.commentBody source.contents) arg ∧
        ∀ t' ∈ later, ∀ before lead,
          ¬ pragma.OccursIn (t'.commentBody source.contents) before lead) ∧
    ∀ t ∈ completedComments source config, ∀ arg,
      pragma.Finds t.offset (t.commentBody source.contents) arg →
        t.offset ≤ arg.span.start ∧ arg.span.stop ≤ t.stop ∧
          arg.span.slice? source.contents = some arg.text.toUTF8 := by
  refine ⟨?_, ?_, fun arg => ?_, fun t ht arg hfinds => span_of_finds ht hfinds⟩
  · have hready := Lexer.ready_ofSource source { config with keepComments := true }
    exact (Lexer.ordered_rest hready nofun).2.filter _
  · simp only [get?_pragmas_eq, List.findSome?_isSome_iff, List.mem_reverse]
    exact exists_congr fun t => and_congr_right isSome_get?_comment_iff
  · rw [get?_pragmas_eq, findSome?_reverse_eq_some_iff]
    refine exists₃_congr fun earlier t later => and_congr_right fun hcomments => ?_
    have hmem : ∀ t' ∈ t :: later, t' ∈ completedComments source config := by
      intro t' ht'
      rw [hcomments]
      exact List.mem_append_right earlier ht'
    refine and_congr (get?_comment_eq_some_iff (hmem t List.mem_cons_self)) ?_
    exact forall₂_congr fun t' ht' =>
      get?_comment_eq_none_iff (hmem t' (List.mem_cons_of_mem t ht'))

/-- A keyword without an argument hides no other, and a comment without a pragma leaves it as it
was. -/
example :
    let source : Source := ⟨"twice", "/* @edition, @edition 7*/ // @edition".toUTF8, 0, by decide⟩
    (ofSource source {}).pragmas.edition? = some ⟨"7", ⟨22, 23⟩⟩ := by
  decide +kernel

end LexedFile

end Lexis
