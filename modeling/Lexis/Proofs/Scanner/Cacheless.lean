import Lexis.Lexer.Opening
import Lexis.Proofs.Cursor.Cacheless

/-!
# Scanners do not see the cache

A scanner that `IgnoresCache` comes to the same from cursors that differ in their caches: it finds
the same or fails alike, and the cursors behind it are the same again but for their caches. This is
so of the primitives, it is kept by `bind`, and each loop keeps it along its recursion.
-/

namespace Lexis

open CharClass

/-- What a scan has come to, without the cache of its cursor. -/
def withoutCache {α : Type} :
    EStateM.Result LexError Cursor α → EStateM.Result LexError PlainCursor α
  | .ok a c => .ok a c.plain
  | .error e c => .error e c.plain

theorem eq_ok_of_withoutCache {α : Type} {a : α} {c : Cursor}
    {r : EStateM.Result LexError Cursor α} (h : withoutCache (.ok a c) = withoutCache r) :
    ∃ d, r = .ok a d ∧ c.plain = d.plain := by
  cases r with
  | ok b d =>
    obtain ⟨rfl, hplain⟩ := EStateM.Result.ok.inj h
    exact ⟨d, rfl, hplain⟩
  | error e d => cases h

theorem eq_error_of_withoutCache {α : Type} {e : LexError} {c : Cursor}
    {r : EStateM.Result LexError Cursor α} (h : withoutCache (.error e c) = withoutCache r) :
    ∃ d, r = .error e d ∧ c.plain = d.plain := by
  cases r with
  | ok b d => cases h
  | error e' d =>
    obtain ⟨rfl, hplain⟩ := EStateM.Result.error.inj h
    exact ⟨d, rfl, hplain⟩

namespace Scanner

variable {α β : Type} {s : Scanner α} {c d : Cursor}

/-- The scanner comes to the same from cursors that differ in nothing but their caches. -/
def IgnoresCache (s : Scanner α) : Prop :=
  ∀ c d : Cursor, c.plain = d.plain → withoutCache (s c) = withoutCache (s d)

/-! ## Primitives and sequences -/

theorem ignoresCache_pure (a : α) : IgnoresCache (pure a : Scanner α) :=
  fun _ _ h => congrArg (EStateM.Result.ok a) h

theorem ignoresCache_fail (e : LexError) : IgnoresCache (fail e : Scanner α) :=
  fun _ _ h => congrArg (EStateM.Result.error e) h

theorem IgnoresCache.bind {k : α → Scanner β} (hs : IgnoresCache s)
    (hk : ∀ a, IgnoresCache (k a)) : IgnoresCache (s >>= k) := by
  intro c d h
  have hfirst := hs c d h
  simp only [Bind.bind, EStateM.bind]
  cases hc : s c with
  | ok a c' =>
    rw [hc] at hfirst
    obtain ⟨d', hd, hplain⟩ := eq_ok_of_withoutCache hfirst
    rw [hd]
    exact hk a c' d' hplain
  | error e c' =>
    rw [hc] at hfirst
    obtain ⟨d', hd, hplain⟩ := eq_error_of_withoutCache hfirst
    rw [hd]
    exact congrArg (EStateM.Result.error e) hplain

/-- An error that is about the place of the cursor. -/
theorem ignoresCache_failAt (f : Nat → LexError) :
    IgnoresCache (fun c => .error (f c.index) c : Scanner α) := by
  intro c d h
  rw [withoutCache, withoutCache, h, Cursor.index_eq_of_plain h]

/-- What is read off a cursor is no part of its cache. -/
theorem ignoresCache_read {f : Cursor → α} (hf : ∀ c d : Cursor, c.plain = d.plain → f c = f d) :
    IgnoresCache (do return f (← get) : Scanner α) := by
  intro c d h
  show EStateM.Result.ok (f c) c.plain = .ok (f d) d.plain
  rw [hf c d h, h]

theorem ignoresCache_move {f : Cursor → Cursor}
    (hf : ∀ c d : Cursor, c.plain = d.plain → (f c).plain = (f d).plain) :
    IgnoresCache (move f) :=
  fun c d h => congrArg (EStateM.Result.ok ()) (hf c d h)

theorem ignoresCache_current : IgnoresCache current :=
  ignoresCache_read fun _ _ => Cursor.current_eq_of_plain

theorem ignoresCache_index : IgnoresCache index :=
  ignoresCache_read fun _ _ => Cursor.index_eq_of_plain

theorem ignoresCache_bytesFrom (start : Nat) : IgnoresCache (bytesFrom start) :=
  ignoresCache_read fun _ _ h => by rw [Cursor.index_eq_of_plain h, Cursor.bytes_eq_of_plain h]

theorem ignoresCache_skip (n : Nat) : IgnoresCache (skip n) :=
  ignoresCache_move fun _ _ => Cursor.plain_advanceBy_eq n

theorem ignoresCache_peek {n : Nat} (hn : n ≤ UInt32.size) : IgnoresCache (peek n) := by
  intro c d h
  show EStateM.Result.ok (c.peek n).1 (c.peek n).2.plain = .ok (d.peek n).1 (d.peek n).2.plain
  rw [Cursor.peek_fst_congr hn h, Cursor.plain_peek_eq n h]

/-! ## Comments -/

theorem ignoresCache_blockCommentRest (depth : Nat) (crossed : Bool) :
    IgnoresCache (blockCommentRest depth crossed) := by
  intro c d h
  have hahead : ∀ {c d c' : Cursor} {next : CodePoint}, c.plain = d.plain →
      c.peek 1 = (next, c') → (d.peek 1).1 = next ∧ ∀ n,
        (c'.advanceBy n).plain = ((d.peek 1).2.advanceBy n).plain := by
    intro c d c' next h hpeek
    have hfst := Cursor.peek_fst_congr (show 1 ≤ UInt32.size by decide) h
    have hsnd := Cursor.plain_peek_eq 1 h
    rw [hpeek] at hfst hsnd
    exact ⟨hfst.symm, fun n => Cursor.plain_advanceBy_eq n hsnd⟩
  fun_induction blockCommentRest depth crossed c generalizing d with
  | case1 depth crossed c ch hcur next c' hpeek _ _ _ hopen ih =>
    obtain ⟨hnext, hplain⟩ := hahead h hpeek
    rw [blockCommentRest_def depth crossed d, ← Cursor.current_eq_of_plain h, hcur]
    simp only [hnext, if_pos hopen]
    exact ih _ (hplain 2)
  | case2 crossed c ch hcur next c' hpeek _ _ _ hopen hclose =>
    obtain ⟨hnext, hplain⟩ := hahead h hpeek
    rw [blockCommentRest_def 0 crossed d, ← Cursor.current_eq_of_plain h, hcur]
    simp only [hnext, if_neg hopen, if_pos hclose]
    exact congrArg (EStateM.Result.ok crossed) (hplain 2)
  | case3 crossed c ch hcur next c' hpeek _ _ _ hopen hclose depth ih =>
    obtain ⟨hnext, hplain⟩ := hahead h hpeek
    rw [blockCommentRest_def (depth + 1) crossed d, ← Cursor.current_eq_of_plain h, hcur]
    simp only [hnext, if_neg hopen, if_pos hclose]
    exact ih _ (hplain 2)
  | case4 depth crossed c ch hcur next c' hpeek _ _ _ hopen hclose ih =>
    obtain ⟨hnext, hplain⟩ := hahead h hpeek
    rw [blockCommentRest_def depth crossed d, ← Cursor.current_eq_of_plain h, hcur]
    simp only [hnext, if_neg hopen, if_neg hclose]
    exact ih _ (hplain 1)
  | case5 depth crossed c hnot =>
    rw [blockCommentRest_def depth crossed d, ← Cursor.current_eq_of_plain h]
    split
    · rename_i ch hcur
      exact absurd hcur (hnot ch)
    · exact ignoresCache_failAt (.atOffset .unterminatedBlockComment) c d h

/-! ## Digits -/

theorem ignoresCache_digitsEnd (place : GroupPlace) : IgnoresCache (digitsEnd place) := by
  intro c d h
  unfold digitsEnd
  split
  · exact ignoresCache_failAt (fun stop => .atOffset .trailingUnderscore (stop - 1)) c d h
  · exact ignoresCache_pure [] c d h

theorem withoutCache_cons (n : Nat) {r r' : EStateM.Result LexError Cursor (List Nat)}
    (h : withoutCache r = withoutCache r') :
    withoutCache (match r with
      | .ok ns c => .ok (n :: ns) c
      | .error e c => .error e c) =
    withoutCache (match r' with
      | .ok ns c => .ok (n :: ns) c
      | .error e c => .error e c) := by
  have hmap : ∀ r : EStateM.Result LexError Cursor (List Nat),
      withoutCache (match r with
        | .ok ns c => .ok (n :: ns) c
        | .error e c => .error e c) =
      match withoutCache r with
        | .ok ns c => .ok (n :: ns) c
        | .error e c => .error e c := by
    intro r
    cases r <;> rfl
  rw [hmap, hmap, h]

theorem ignoresCache_digitsFrom (radix : Nat) (place : GroupPlace) :
    IgnoresCache (digitsFrom radix place) := by
  intro c d h
  fun_induction digitsFrom radix place c generalizing d with
  | case1 c hcur =>
    rw [digitsFrom_def radix _ d, ← Cursor.current_eq_of_plain h, hcur]
    simp only [if_true]
    exact ignoresCache_failAt (.atOffset .consecutiveUnderscores) c d h
  | case2 c hcur =>
    rw [digitsFrom_def radix _ d, ← Cursor.current_eq_of_plain h, hcur]
    simp only [if_true]
    exact ignoresCache_failAt (.atOffset .leadingUnderscore) c d h
  | case3 c hcur hlt ih =>
    rw [digitsFrom_def radix _ d, ← Cursor.current_eq_of_plain h, hcur]
    exact ih _ (Cursor.plain_advance_eq h)
  | case4 place c ch hcur hlt hne n hdigit ns c' hrest ih =>
    rw [digitsFrom_def radix _ d, ← Cursor.current_eq_of_plain h, hcur]
    simp only [if_neg hne, hdigit]
    rw [hrest] at ih
    exact withoutCache_cons n (ih _ (Cursor.plain_advance_eq h))
  | case5 place c ch hcur hlt hne n hdigit e c' hrest ih =>
    rw [digitsFrom_def radix _ d, ← Cursor.current_eq_of_plain h, hcur]
    simp only [if_neg hne, hdigit]
    rw [hrest] at ih
    exact withoutCache_cons n (ih _ (Cursor.plain_advance_eq h))
  | case6 place c ch hcur hlt hne hdigit hother =>
    rw [digitsFrom_def radix _ d, ← Cursor.current_eq_of_plain h, hcur]
    simp only [if_neg hne, hdigit, if_pos hother]
    exact ignoresCache_failAt
      (fun start => .between (.invalidDigit ch radix) start (start + 1)) c d h
  | case7 place c ch hcur hlt hne hdigit hother =>
    rw [digitsFrom_def radix _ d, ← Cursor.current_eq_of_plain h, hcur]
    simp only [if_neg hne, hdigit, if_neg hother]
    exact ignoresCache_digitsEnd place c d h
  | case8 place c hnot =>
    rw [digitsFrom_def radix _ d, ← Cursor.current_eq_of_plain h]
    split
    · rename_i ch hcur
      exact absurd hcur (hnot ch)
    · exact ignoresCache_digitsEnd place c d h

/-! ## Quoted literals -/

theorem plain_skipEscape_eq (h : c.plain = d.plain) :
    (skipEscape c).plain = (skipEscape d).plain := by
  have hstep : ∀ {c d : Cursor}, c.plain = d.plain → (stepOver c).plain = (stepOver d).plain := by
    intro c d h
    unfold stepOver
    rw [Cursor.current_eq_of_plain h]
    split
    · exact Cursor.plain_advance_eq h
    · exact h
  have hfeed : ∀ {c d : Cursor}, c.plain = d.plain →
      (skipLineFeed c).plain = (skipLineFeed d).plain := by
    intro c d h
    simp only [skipLineFeed, Cursor.peek_fst_congr (show 1 ≤ UInt32.size by decide) h]
    split
    · exact Cursor.plain_advance_eq (Cursor.plain_peek_eq 1 h)
    · exact Cursor.plain_peek_eq 1 h
  have hnext := Cursor.plain_advance_eq h
  unfold skipEscape
  rw [Cursor.current_eq_of_plain hnext]
  split
  · exact hstep (hfeed hnext)
  · exact hstep hnext

theorem closerAt_congr (closers : List (List Char × Ending)) (h : c.plain = d.plain) :
    (closerAt closers c).1 = (closerAt closers d).1 ∧
      (closerAt closers c).2.plain = (closerAt closers d).2.plain := by
  induction closers generalizing c d with
  | nil => exact ⟨rfl, h⟩
  | cons closer closers ih =>
    have hahead : (c.startsWith closer.1).2.plain = (d.startsWith closer.1).2.plain := by
      rw [Cursor.plain_startsWith, Cursor.plain_startsWith, h]
    simp only [closerAt, Cursor.startsWith_fst_congr closer.1 h]
    split
    · exact ⟨rfl, hahead⟩
    · exact ih hahead

theorem ignoresCache_brokenOff (style : QuoteStyle) (start : Nat) :
    IgnoresCache (brokenOff style start) :=
  ignoresCache_failAt (.between style.unterminated start)

theorem ignoresCache_quotedRest (style : QuoteStyle) (closers : List (List Char × Ending))
    (start : Nat) (hasEscape nonAscii : Bool) :
    IgnoresCache (quotedRest style closers start hasEscape nonAscii) := by
  intro c d h
  fun_induction quotedRest style closers start hasEscape nonAscii c generalizing d with
  | case1 hasEscape nonAscii c ch hcur hline =>
    rw [quotedRest_def (c := d), ← Cursor.current_eq_of_plain h, hcur]
    simp only [if_pos hline]
    exact ignoresCache_brokenOff style start c d h
  | case2 hasEscape nonAscii c ch hcur hline width ending c' hcloser =>
    obtain ⟨hfound, hplain⟩ := closerAt_congr closers h
    rw [hcloser] at hfound hplain
    rw [quotedRest_def (c := d), ← Cursor.current_eq_of_plain h, hcur]
    simp only [if_neg hline, ← hfound]
    rw [withoutCache, withoutCache, Cursor.index_eq_of_plain h,
      Cursor.plain_advanceBy_eq width hplain]
  | case3 hasEscape nonAscii c ch hcur hline c' hcloser _ _ _ _ _ hescape ih =>
    obtain ⟨hfound, hplain⟩ := closerAt_congr closers h
    rw [hcloser] at hfound hplain
    rw [quotedRest_def (c := d), ← Cursor.current_eq_of_plain h, hcur]
    simp only [if_neg hline, ← hfound, if_pos hescape]
    exact ih _ (plain_skipEscape_eq hplain)
  | case4 hasEscape nonAscii c ch hcur hline c' hcloser _ _ _ _ _ hescape ih =>
    obtain ⟨hfound, hplain⟩ := closerAt_congr closers h
    rw [hcloser] at hfound hplain
    rw [quotedRest_def (c := d), ← Cursor.current_eq_of_plain h, hcur]
    simp only [if_neg hline, ← hfound, if_neg hescape]
    exact ih _ (Cursor.plain_advance_eq hplain)
  | case5 hasEscape nonAscii c hnot =>
    rw [quotedRest_def (c := d), ← Cursor.current_eq_of_plain h]
    split
    · rename_i ch hcur
      exact absurd hcur (hnot ch)
    · exact ignoresCache_brokenOff style start c d h

theorem countHashes_congr (h : c.plain = d.plain) :
    (countHashes c).1 = (countHashes d).1 ∧ (countHashes c).2.plain = (countHashes d).2.plain := by
  fun_induction countHashes c generalizing d with
  | case1 c n c' hcount hcur hlt ih =>
    obtain ⟨hsame, hplain⟩ := ih (Cursor.plain_advance_eq h)
    rw [hcount] at hsame hplain
    rw [countHashes_def d, ← Cursor.current_eq_of_plain h, if_pos hcur]
    exact ⟨congrArg Nat.succ hsame, hplain⟩
  | case2 c ch hcur hlt hne =>
    have hother : c.current ≠ .scalar '#' := by simpa [hcur] using hne
    rw [countHashes_def d, ← Cursor.current_eq_of_plain h, if_neg hother]
    exact ⟨rfl, h⟩
  | case3 c hnot =>
    rw [countHashes_def d, ← Cursor.current_eq_of_plain h, if_neg (hnot '#')]
    exact ⟨rfl, h⟩

theorem ignoresCache_quotedBody (style : QuoteStyle) (start : Nat) :
    IgnoresCache (quotedBody style start) := by
  unfold quotedBody
  apply ignoresCache_index.bind
  intro contentStart
  apply (ignoresCache_quotedRest style _ start false false).bind
  intro body
  exact ignoresCache_read fun _ _ h => by rw [Cursor.bytes_eq_of_plain h]

theorem ignoresCache_quoted (style : QuoteStyle) (width : Nat) (kinds : Ending → TokenKind)
    (flags : TokenFlags) : IgnoresCache (quoted style width kinds flags) := by
  unfold quoted
  apply ignoresCache_index.bind
  intro start
  apply (ignoresCache_skip width).bind
  intro _
  exact (ignoresCache_quotedBody style start).bind fun _ => ignoresCache_pure _

theorem ignoresCache_rawString : IgnoresCache rawString := by
  have hsigns : IgnoresCache (modifyGet countHashes) := by
    intro c d h
    obtain ⟨hcount, hplain⟩ := countHashes_congr h
    show EStateM.Result.ok (countHashes c).1 (countHashes c).2.plain =
      .ok (countHashes d).1 (countHashes d).2.plain
    rw [hcount, hplain]
  unfold rawString
  apply ignoresCache_index.bind
  intro start
  apply (ignoresCache_skip 1).bind
  intro _
  apply hsigns.bind
  intro hashes
  apply ignoresCache_current.bind
  intro quote
  split
  · apply (ignoresCache_skip 1).bind
    intro _
    exact (ignoresCache_quotedBody _ start).bind fun _ => ignoresCache_pure _
  · exact ignoresCache_index.bind fun _ => ignoresCache_fail _

theorem ignoresCache_templateContinuation (start : Nat) (flags : TokenFlags) :
    IgnoresCache (templateContinuation start flags) := by
  unfold templateContinuation
  exact (ignoresCache_quotedBody .template start).bind fun _ => ignoresCache_pure _

/-! ## Names, operators and numbers -/

theorem ignoresCache_identifierRest : IgnoresCache identifierRest := by
  unfold identifierRest
  apply (ignoresCache_move fun _ _ => Cursor.plain_skipAsciiWhile_eq _).bind
  intro _
  apply ignoresCache_current.bind
  intro next
  split
  · exact ignoresCache_move fun _ _ => Cursor.plain_skipWhile_eq _
  · exact ignoresCache_pure _

theorem ignoresCache_keywordFrom? (start : Nat) : IgnoresCache (keywordFrom? start) :=
  (ignoresCache_bytesFrom start).bind fun _ => ignoresCache_pure _

theorem ignoresCache_name : IgnoresCache name := by
  unfold name
  apply ignoresCache_index.bind
  intro start
  apply (ignoresCache_skip 1).bind
  intro _
  apply ignoresCache_identifierRest.bind
  intro _
  apply (ignoresCache_keywordFrom? start).bind
  intro keyword?
  split <;> exact ignoresCache_pure _

theorem ignoresCache_escapedName : IgnoresCache escapedName := by
  unfold escapedName
  apply (ignoresCache_skip 2).bind
  intro _
  apply ignoresCache_index.bind
  intro start
  apply (ignoresCache_skip 1).bind
  intro _
  apply ignoresCache_identifierRest.bind
  intro _
  apply (ignoresCache_keywordFrom? start).bind
  intro keyword?
  split <;> exact ignoresCache_pure _

theorem ignoresCache_unexpected (ch : Char) : IgnoresCache (unexpected ch) := by
  unfold unexpected
  apply ignoresCache_index.bind
  intro start
  apply (ignoresCache_skip 1).bind
  intro _
  exact ignoresCache_index.bind fun _ => ignoresCache_pure _

theorem ignoresCache_exponent : IgnoresCache exponent := by
  unfold exponent
  apply ignoresCache_current.bind
  intro letter
  split
  · apply (ignoresCache_peek (show 1 ≤ UInt32.size by decide)).bind
    intro after
    apply (ignoresCache_peek (Cursor.one_add_toNat_le _)).bind
    intro first
    apply ignoresCache_index.bind
    intro firstOffset
    split
    · apply (ignoresCache_skip _).bind
      intro _
      exact (ignoresCache_digitsFrom 10 .start).bind fun _ => ignoresCache_pure _
    · split
      · exact ignoresCache_fail _
      · split
        · exact ignoresCache_fail _
        · exact ignoresCache_pure _
  · exact ignoresCache_pure _

theorem ignoresCache_fraction : IgnoresCache fraction := by
  unfold fraction
  apply ignoresCache_current.bind
  intro dot
  apply (ignoresCache_peek (show 1 ≤ UInt32.size by decide)).bind
  intro first
  split
  · apply (ignoresCache_skip 1).bind
    intro _
    exact (ignoresCache_digitsFrom 10 .start).bind fun _ => ignoresCache_pure _
  · exact ignoresCache_pure _

theorem ignoresCache_whole : IgnoresCache whole := by
  unfold whole
  apply ignoresCache_current.bind
  intro first
  split
  · exact ignoresCache_digitsFrom 10 .start
  · exact ignoresCache_pure _

theorem ignoresCache_numberLexeme (value : LiteralValue) : IgnoresCache (numberLexeme value) := by
  unfold numberLexeme
  apply ignoresCache_current.bind
  intro next
  split
  · apply ignoresCache_index.bind
    intro nameStart
    apply (ignoresCache_skip 1).bind
    intro _
    apply (ignoresCache_move fun _ _ => Cursor.plain_skipWhile_eq _).bind
    intro _
    apply (ignoresCache_bytesFrom nameStart).bind
    intro name
    exact ignoresCache_index.bind fun _ => ignoresCache_pure _
  · exact ignoresCache_pure _

theorem ignoresCache_decimalNumber : IgnoresCache decimalNumber := by
  unfold decimalNumber
  apply ignoresCache_whole.bind
  intro whole
  apply ignoresCache_fraction.bind
  intro fraction?
  exact ignoresCache_exponent.bind fun _ => ignoresCache_numberLexeme _

theorem ignoresCache_basedNumber (base : Base) : IgnoresCache (basedNumber base) := by
  unfold basedNumber
  apply (ignoresCache_skip 2).bind
  intro _
  apply ignoresCache_index.bind
  intro digitsStart
  apply (ignoresCache_digitsFrom base.radix .start).bind
  intro digits
  split
  · exact ignoresCache_fail _
  · exact ignoresCache_numberLexeme _

theorem ignoresCache_leadingZero : IgnoresCache leadingZero := by
  have hfail : ∀ c, leadingZero c =
      .error (.between .leadingZero c.nextOffset (c.nextOffset + 1)) c := fun _ => rfl
  intro c d h
  rw [hfail, hfail, Cursor.nextOffset_eq_of_plain h, withoutCache, withoutCache, h]

/-! ## Comments -/

theorem pragmasBetween_congr (start stop : Nat) (h : c.plain = d.plain) :
    pragmasBetween c start stop = pragmasBetween d start stop := by
  rw [pragmasBetween, pragmasBetween, Cursor.bytes_eq_of_plain h]

theorem ignoresCache_lineComment (doc : Bool) : IgnoresCache (lineComment doc) := by
  unfold lineComment
  apply ignoresCache_index.bind
  intro start
  apply (ignoresCache_skip 2).bind
  intro _
  apply (ignoresCache_move fun _ _ => Cursor.plain_skipToLineEnd_eq).bind
  intro _
  exact ignoresCache_read fun c d h => by
    rw [pragmasBetween_congr start _ h, Cursor.index_eq_of_plain h]

theorem ignoresCache_blockComment (legal : Bool) : IgnoresCache (blockComment legal) := by
  unfold blockComment
  apply ignoresCache_index.bind
  intro start
  apply (ignoresCache_skip 2).bind
  intro _
  apply (ignoresCache_blockCommentRest 0 false).bind
  intro crossed
  exact ignoresCache_read fun c d h => by
    rw [pragmasBetween_congr start _ h, Cursor.index_eq_of_plain h]

theorem ignoresCache_hashbang : IgnoresCache hashbang := by
  unfold hashbang
  apply (ignoresCache_skip 1).bind
  intro _
  apply (ignoresCache_move fun _ _ => Cursor.plain_skipToLineEnd_eq).bind
  exact fun _ => ignoresCache_pure _

end Scanner

/-- Whatever a token begins with, its scanner does not see the cache. -/
theorem Opening.ignoresCache_scanner (opening : Opening) :
    Scanner.IgnoresCache opening.scanner := by
  cases opening with
  | lineComment doc => exact Scanner.ignoresCache_lineComment doc
  | blockComment legal => exact Scanner.ignoresCache_blockComment legal
  | string =>
    exact Scanner.ignoresCache_quoted .string 1 (fun _ => .stringLiteral) {}
  | tripleString =>
    exact Scanner.ignoresCache_quoted .tripleString 3 (fun _ => .stringLiteral)
      { multiLine := true }
  | character =>
    exact Scanner.ignoresCache_quoted .character 1 (fun _ => .charLiteral) {}
  | template =>
    exact Scanner.ignoresCache_quoted .template 1 Scanner.templateKind { multiLine := true }
  | rawString => exact Scanner.ignoresCache_rawString
  | escapedName => exact Scanner.ignoresCache_escapedName
  | number => exact Scanner.ignoresCache_decimalNumber
  | basedNumber base => exact Scanner.ignoresCache_basedNumber base
  | leadingZero => exact Scanner.ignoresCache_leadingZero
  | operator op => exact (Scanner.ignoresCache_skip _).bind fun _ => Scanner.ignoresCache_pure _
  | name => exact Scanner.ignoresCache_name
  | unexpected ch => exact Scanner.ignoresCache_unexpected ch

end Lexis
