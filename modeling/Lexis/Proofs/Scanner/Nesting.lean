import Lexis.Lexer.Nesting
import Lexis.Proofs.Scanner.Passed

/-!
# Nested comments

A block comment is a text of the grammar `C ::= "/*" (C | x)* "*/"`, where `x` is a code point at
which neither delimiter begins (`NestedComment`). The scanner, which goes by the number of comments
that are open, passes such a text (`NestedComment.blockComment_eq_ok`) and no other
(`exists_nestedComment`), and a counter in a word of 32 bits never leaves its range on the way
(`blockCommentCounted_eq`).
-/

namespace Lexis.Scanner

open CharClass

/-- `(C | x)* "*/"`: what stands behind the opening of a comment. -/
inductive CommentTail : List Char → Prop
  | close : CommentTail ['*', '/']
  | nested {inner tail : List Char} (hinner : CommentTail inner) (htail : CommentTail tail) :
      CommentTail (('/' :: '*' :: inner) ++ tail)
  | single {ch : Char} {tail : List Char} (hopen : ¬ ['/', '*'] <+: ch :: tail)
      (hclose : ¬ ['*', '/'] <+: ch :: tail) (htail : CommentTail tail) : CommentTail (ch :: tail)

/-- `C ::= "/*" (C | x)* "*/"`. -/
inductive NestedComment : List Char → Prop
  | intro {tail : List Char} (htail : CommentTail tail) : NestedComment ('/' :: '*' :: tail)

variable {c c' : Cursor} {ch : Char} {depth : Nat} {text tail rest comment comment' : List Char}

theorem CommentTail.ne_nil (h : CommentTail text) : text ≠ [] := by
  cases h <;> exact List.cons_ne_nil _ _

theorem pair_prefix_cons_iff {first second : Char} :
    [first, second] <+: ch :: text ↔ ch = first ∧ text.head? = some second := by
  cases text with
  | nil => simp
  | cons d text => simp [eq_comm]

theorem head?_append_of_ne_nil (h : text ≠ []) : (text ++ rest).head? = text.head? := by
  rw [List.head?_append, Option.or_of_isSome (List.isSome_head?.2 h)]

/-! ## Counting comments and nesting them -/

/-- What is left behind the end of a comment that stands in `depth` others. -/
def ClosesAll : (depth : Nat) → (rest : List Char) → Prop
  | 0, rest => rest = []
  | depth + 1, rest => CommentBody depth rest

/-- A tail closes one of the comments that are open. -/
theorem CommentTail.commentBody (h : CommentTail tail) (hrest : ClosesAll depth rest) :
    CommentBody depth (tail ++ rest) := by
  induction h generalizing depth rest with
  | close =>
    cases depth with
    | zero =>
      obtain rfl : rest = [] := hrest
      exact .close
    | succ depth => exact .leave hrest
  | nested _ _ ihinner ihtail =>
    rw [List.append_assoc]
    have hinside : ClosesAll (depth + 1) _ := ihtail hrest
    exact .enter (ihinner hinside)
  | single hopen hclose htail ih =>
    rw [pair_prefix_cons_iff, ← head?_append_of_ne_nil htail.ne_nil] at hopen hclose
    exact .single hopen hclose (ih hrest)

/-- As many tails as the number says, one behind the other. -/
def CommentTails : Nat → List Char → Prop
  | 0, text => text = []
  | n + 1, text => ∃ tail rest, text = tail ++ rest ∧ CommentTail tail ∧ CommentTails n rest

/-- The text behind the openings of comments closes each of them. -/
theorem CommentBody.commentTails (h : CommentBody depth text) : CommentTails (depth + 1) text := by
  induction h with
  | close => exact ⟨['*', '/'], [], rfl, .close, rfl⟩
  | enter _ ih =>
    -- Behind the comment that is entered, the one that it stands in goes on.
    obtain ⟨inner, _, rfl, hinner, tail, rest, rfl, htail, hrest⟩ := ih
    exact ⟨_, rest, by simp, .nested hinner htail, hrest⟩
  | leave _ ih => exact ⟨['*', '/'], _, rfl, .close, ih⟩
  | single hopen hclose _ ih =>
    obtain ⟨tail, rest, rfl, htail, hrest⟩ := ih
    rw [head?_append_of_ne_nil htail.ne_nil, ← pair_prefix_cons_iff] at hopen hclose
    exact ⟨_, rest, rfl, .single hopen hclose htail, hrest⟩

theorem commentBody_zero_iff : CommentBody 0 text ↔ CommentTail text := by
  constructor
  · intro h
    obtain ⟨tail, _, rfl, htail, rfl⟩ := h.commentTails
    rwa [List.append_nil]
  · intro h
    rw [← List.append_nil text]
    have hnone : ClosesAll 0 [] := rfl
    exact h.commentBody hnone

theorem NestedComment.exists_inner (h : NestedComment comment) :
    ∃ inner, comment = '/' :: '*' :: (inner ++ ['*', '/']) ∧
      CommentBody 0 (inner ++ ['*', '/']) := by
  obtain ⟨htail⟩ := h
  have hbody := commentBody_zero_iff.2 htail
  obtain ⟨inner, rfl⟩ := hbody.eq_append
  exact ⟨inner, rfl, hbody⟩

/-! ## What is passed -/

/-- A nested comment is passed, whatever is behind it. -/
theorem NestedComment.blockComment_eq_ok (hcomment : NestedComment comment) (legal : Bool)
    (h : c.Started) (htext : comment <+: c.text) :
    ∃ lexeme c', blockComment legal c = .ok lexeme c' ∧ lexeme.kind = .blockComment ∧
      c.Passes comment c' := by
  obtain ⟨rest, hrest⟩ := htext
  obtain ⟨inner, rfl, hbody⟩ := hcomment.exists_inner
  obtain ⟨c', hscan, hpass⟩ := Scanner.blockComment_eq_ok legal h hrest.symm hbody
  exact ⟨_, c', hscan, rfl, hpass⟩

theorem exists_nestedComment {legal : Bool} {lexeme : Lexeme} (h : c.Started)
    (htext : c.text = '/' :: '*' :: text) (hscan : blockComment legal c = .ok lexeme c') :
    ∃ comment, NestedComment comment ∧ c.Passes comment c' := by
  obtain ⟨inner, rest, rfl, hbody⟩ := commentBody_of_blockComment h htext hscan
  have hcomment : NestedComment ('/' :: '*' :: (inner ++ ['*', '/'])) :=
    ⟨commentBody_zero_iff.1 hbody⟩
  obtain ⟨lexeme', d, hscan', -, hpass⟩ := hcomment.blockComment_eq_ok legal h ⟨rest, htext.symm⟩
  cases hscan.symm.trans hscan'
  exact ⟨_, hcomment, hpass⟩

/-- No text begins with two nested comments. -/
theorem NestedComment.unique (h : c.Started) (hcomment : NestedComment comment)
    (hcomment' : NestedComment comment') (htext : comment <+: c.text)
    (htext' : comment' <+: c.text) : comment = comment' := by
  obtain ⟨lexeme, c₁, hscan, -, hpass⟩ := hcomment.blockComment_eq_ok false h htext
  obtain ⟨lexeme', c₂, hscan', -, hpass'⟩ := hcomment'.blockComment_eq_ok false h htext'
  cases hscan.symm.trans hscan'
  exact hpass.spells.unique hpass'.spells

/-! ## The counter -/

variable {opened : UInt32} {crossed : Bool}

theorem index_lt_of_peek {next : CodePoint} {steps : Nat} (hcur : c.current = .scalar ch)
    (hpeek : c.peek 1 = (next, c')) (hsteps : 0 < steps) :
    c.index < (c'.advanceBy steps).index := by
  have hahead : c.Passes [] c' := by simpa [hpeek] using Cursor.passes_peek (.of_scalar hcur) 1
  have hindex := (hahead.trans (Cursor.passes_advanceBy hahead.started steps)).index_eq
  obtain ⟨n, rfl⟩ := Nat.exists_eq_succ_of_ne_zero (Nat.ne_of_gt hsteps)
  have hpos := ch.utf8Size_pos
  rw [hahead.text_eq_of_nil, Cursor.text_of_scalar hcur, List.take_succ_cons, List.nil_append,
    Utf8.size_cons] at hindex
  omega

theorem countUp_eq_ok (h : opened.toNat + 1 < UInt32.size) :
    countUp opened = .ok (opened + 1) ∧ (opened + 1).toNat = opened.toNat + 1 := by
  refine ⟨if_pos h, ?_⟩
  rw [UInt32.toNat_add]
  exact Nat.mod_eq_of_lt h

theorem countDown_eq_ok (h : 0 < opened.toNat) :
    countDown opened = .ok (opened - 1) ∧ (opened - 1).toNat = opened.toNat - 1 := by
  have hne : opened ≠ 0 := by
    rintro rfl
    cases h
  refine ⟨if_neg hne, ?_⟩
  exact UInt32.toNat_sub_of_le _ _ (UInt32.le_iff_toNat_le.2 h)

/-- Each of the open comments has been opened behind a byte of its own. -/
theorem blockCommentRestCounted_eq (hpos : 0 < opened.toNat) (hle : opened.toNat ≤ c.index) :
    blockCommentRestCounted opened crossed c =
      .ok (blockCommentRest (opened.toNat - 1) crossed c) := by
  fun_induction blockCommentRestCounted opened crossed c with
  | case1 opened crossed c ch hcur next c' hpeek hlt _ _ hopen fault hcount =>
    have hroom := c.size_lt
    have hindex := Cursor.index_lt_of_scalar hcur
    rw [(countUp_eq_ok (by omega)).1] at hcount
    cases hcount
  | case2 opened crossed c ch hcur next c' hpeek hlt _ _ hopen opened' hcount ih =>
    have hroom := c.size_lt
    have hindex := Cursor.index_lt_of_scalar hcur
    have hroom' : opened.toNat + 1 < UInt32.size := by omega
    obtain ⟨hup, hcounted⟩ := countUp_eq_ok hroom'
    rw [hup] at hcount
    cases hcount
    have hstep := index_lt_of_peek hcur hpeek Nat.two_pos
    rw [ih (by omega) (by omega), hcounted, blockCommentRest_def (opened.toNat - 1), hcur]
    simp only [hpeek, if_pos hopen]
    rw [Nat.add_sub_cancel, Nat.sub_add_cancel hpos]
  | case3 opened crossed c ch hcur next c' hpeek hlt _ _ hopen hclose fault hcount =>
    rw [(countDown_eq_ok hpos).1] at hcount
    cases hcount
  | case4 opened crossed c ch hcur next c' hpeek hlt _ _ hopen hclose hcount =>
    obtain ⟨hdown, hcounted⟩ := countDown_eq_ok hpos
    rw [hdown] at hcount
    have hzero : opened.toNat - 1 = 0 := by
      rw [← hcounted, Except.ok.inj hcount]
      rfl
    rw [hzero, blockCommentRest_def, hcur]
    simp only [hpeek, if_neg hopen, if_pos hclose]
  | case5 opened crossed c ch hcur next c' hpeek hlt _ _ hopen hclose opened' hcount hne ih =>
    obtain ⟨hdown, hcounted⟩ := countDown_eq_ok hpos
    rw [hdown] at hcount
    cases hcount
    have hstill : opened.toNat - 1 ≠ 0 := by
      rw [← hcounted]
      exact fun h => hne (UInt32.toNat_inj.1 h)
    have hstep := index_lt_of_peek hcur hpeek Nat.two_pos
    obtain ⟨depth, hdepth⟩ := Nat.exists_eq_succ_of_ne_zero hstill
    rw [ih (by omega) (by omega), hcounted, hdepth, blockCommentRest_def depth.succ, hcur]
    simp only [hpeek, if_neg hopen, if_pos hclose]
    rfl
  | case6 opened crossed c ch hcur next c' hpeek hlt _ _ hopen hclose ih =>
    have hstep := index_lt_of_peek hcur hpeek Nat.one_pos
    rw [ih hpos (by omega), blockCommentRest_def _ crossed, hcur]
    simp only [hpeek, if_neg hopen, if_neg hclose]
  | case7 opened crossed c hnot =>
    rw [blockCommentRest_def]
    split
    · rename_i ch hcur
      exact absurd hcur (hnot ch)
    · rfl

/-- The counter of a block comment never leaves the range of its word. -/
theorem blockCommentCounted_eq (legal : Bool) {first second : Char} {text : List Char}
    (h : c.Started) (htext : c.text = first :: second :: text) :
    blockCommentCounted legal c = .ok (blockComment legal c) := by
  have hopening : c.Passes [first, second] (c.advanceBy 2) :=
    Cursor.passes_advanceBy_length h ⟨text, htext.symm⟩
  have hindex := hopening.index_eq
  have hpos := first.utf8Size_pos
  rw [Utf8.size_cons] at hindex
  have hone : (1 : UInt32).toNat = 1 := rfl
  have hcounted : blockCommentRestCounted 1 false (c.advanceBy 2) = _ :=
    blockCommentRestCounted_eq Nat.one_pos (by omega)
  rw [blockCommentCounted, hcounted]
  rw [blockComment_eq, hone, Nat.sub_self]
  simp only [Bind.bind, EStateM.bind, Except.map]
  cases blockCommentRest 0 false (c.advanceBy 2) <;> rfl

end Lexis.Scanner
