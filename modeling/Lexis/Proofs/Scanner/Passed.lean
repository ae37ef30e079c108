import Lexis.Proofs.Scanner.Bodies
import Lexis.Proofs.Scanner.Words

/-!
# What words and comments pass

A word passes its spelling and nothing else; the two ways in which a name is scanned, bytewise and
code point by code point, come to the same run. A line comment passes the rest of its line, and a
block comment passes a text in which comments are nested properly (`CommentBody`), which does not
depend on what is behind it.
-/

namespace Lexis

open CharClass

theorem CodePoint.is_ofChar? (ch? : Option Char) (ch : Char) :
    (ofChar? ch?).is ch = (ch? == some ch) := by
  cases ch? with
  | none => rfl
  | some d =>
    rw [Bool.eq_iff_iff]
    simp [ofChar?, is]

namespace Cursor

variable {c c' : Cursor} {ch : Char} {passed text : List Char}

theorem Started.toChar?_current (h : c.Started) : c.current.toChar? = c.text.head? := by
  rw [h.current_eq_head, CodePoint.toChar?_ofChar?, List.head?_eq_getElem?]

theorem Started.toChar?_peek (h : c.Started) (n : Nat) (hn : n ≤ UInt32.size) :
    (c.peek n).1.toChar? = c.text[n]? := by
  rw [h.peek_eq n hn, CodePoint.toChar?_ofChar?]

theorem Started.upcoming_eq (h : c.Started) (htext : c.text = ch :: text) : c.upcoming = text := by
  rw [h.upcoming_eq_tail, htext, List.tail_cons]

theorem Passes.exists_eq_cons (h : c.Passes passed c') (hcur : c.current = .scalar ch)
    (hne : passed ≠ []) : ∃ text, passed = ch :: text := by
  have htext := h.text_eq
  rw [text_of_scalar hcur] at htext
  cases passed with
  | nil => exact absurd rfl hne
  | cons first text =>
    obtain rfl : ch = first := (List.cons.inj htext).1
    exact ⟨text, rfl⟩

/-- What has been passed are the bytes between the cursors. -/
theorem Passes.slice_eq (h : c.Passes passed c') :
    (Span.mk c.index c'.index).slice c'.bytes = passed.utf8Encode := by
  rw [h.bytes_eq, Span.slice, h.spells.slice?_eq, Option.getD_some]

/-- Behind a run nothing goes on with it. -/
theorem any_head?_of_takeWhile_append {p : Char → Bool} {run rest : List Char}
    (h : (run ++ rest).takeWhile p = run) : rest.head?.any p = false := by
  have hall : ∀ ch ∈ run, p ch = true := by
    intro ch hch
    rw [← h] at hch
    exact List.all_eq_true.1 List.all_takeWhile ch hch
  rw [List.takeWhile_append_of_pos hall, List.append_right_eq_self] at h
  cases rest with
  | nil => rfl
  | cons ch rest =>
    by_cases hch : p ch = true
    · rw [List.takeWhile_cons_of_pos hch] at h
      cases h
    · exact eq_false_of_ne_true hch

theorem Passes.any_head? {p : Char → Bool} (h : c.Passes (c.text.takeWhile p) c') :
    c'.text.head?.any p = false := by
  have hrun : (c.text.takeWhile p ++ c'.text).takeWhile p = c.text.takeWhile p := by
    rw [← h.text_eq]
  exact any_head?_of_takeWhile_append hrun

end Cursor

namespace Scanner

variable {c c' : Cursor} {ch : Char} {passed rest text : List Char} {depth : Nat}

/-! ## Names -/

theorem isIdentContinue_of_ascii (h : isAscii ch = true) :
    isIdentContinue ch = isAsciiIdentContinue ch := by
  rw [isIdentContinue, if_pos h]

theorem identifierRest_eq_ok (h : c.Started) :
    ∃ c', identifierRest c = .ok () c' ∧ c.Passes (c.text.takeWhile isIdentContinue) c' := by
  have hascii := Cursor.passes_skipAsciiWhile isAsciiIdentContinue h
  have hall : ∀ d ∈ c.text.takeWhile fun d => isAscii d && isAsciiIdentContinue d,
      isIdentContinue d = true := by
    intro d hd
    have hclass := List.all_eq_true.1 List.all_takeWhile d hd
    obtain ⟨hlow, hword⟩ := Bool.and_eq_true_iff.1 hclass
    rwa [isIdentContinue_of_ascii hlow]
  have hsplit : c.text.takeWhile isIdentContinue =
      (c.text.takeWhile fun d => isAscii d && isAsciiIdentContinue d) ++
        (c.skipAsciiWhile isAsciiIdentContinue).text.takeWhile isIdentContinue := by
    rw [← List.takeWhile_append_of_pos hall, ← hascii.text_eq]
  have hrest : identifierRest c =
      (if (c.skipAsciiWhile isAsciiIdentContinue).current.toChar?.any (!isAscii ·) then
          move (·.skipWhile isIdentContinue)
        else pure () : Scanner Unit) (c.skipAsciiWhile isAsciiIdentContinue) := rfl
  rw [hsplit, hrest, hascii.started.toChar?_current]
  by_cases hmore : ((c.skipAsciiWhile isAsciiIdentContinue).text.head?.any (!isAscii ·)) = true
  · rw [if_pos hmore]
    exact ⟨_, rfl, hascii.trans (Cursor.passes_skipWhile _ hascii.started)⟩
  · rw [if_neg hmore]
    have hhalt := hascii.any_head?
    have hstop : (c.skipAsciiWhile isAsciiIdentContinue).text.takeWhile isIdentContinue = [] := by
      cases htext : (c.skipAsciiWhile isAsciiIdentContinue).text with
      | nil => rfl
      | cons d text =>
        simp only [htext, List.head?_cons, Option.any_some] at hmore hhalt
        have hlow : isAscii d = true := by simpa using hmore
        apply List.takeWhile_cons_of_neg
        rw [isIdentContinue_of_ascii hlow]
        simpa [hlow] using hhalt
    rw [hstop, List.append_nil]
    exact ⟨_, rfl, hascii⟩

/-- The code points of the name that begins with `ch`, in front of a text. -/
def nameText (ch : Char) (text : List Char) : List Char := ch :: text.takeWhile isIdentContinue

def nameKind (word : List Char) : TokenKind :=
  match Keyword.ofSpelling? (String.ofList word) with
  | some k => .keyword k
  | none => .identifier

def escapedNameKind (word : List Char) : TokenKind :=
  match Keyword.ofSpelling? (String.ofList word) with
  | some _ => .escapedKeyword
  | none => .identifier

/-- A name and the keyword that it is spelled like. -/
theorem wordRest_eq_ok (h : c.Started) (htext : c.text = ch :: text) :
    ∃ c', identifierRest (c.advanceBy 1) = .ok () c' ∧ c.Passes (nameText ch text) c' ∧
      keywordFrom? c.index c' =
        .ok (Keyword.ofSpelling? (String.ofList (nameText ch text))) c' := by
  have hfirst := Cursor.passes_advance (h.current_of_text_cons htext)
  obtain ⟨c', hrest, hpass⟩ := identifierRest_eq_ok hfirst.started
  rw [hfirst.text_eq_of_append htext] at hpass
  have hword : c.Passes (nameText ch text) c' := hfirst.trans hpass
  refine ⟨c', hrest, hword, ?_⟩
  have hfound : keywordFrom? c.index c' = .ok ((String.fromUTF8?
      ((Span.mk c.index c'.index).slice c'.bytes)).bind Keyword.ofSpelling?) c' := rfl
  rw [hfound, hword.slice_eq, Utf8.fromUTF8?_utf8Encode, Option.bind_some]

theorem name_eq_ok (h : c.Started) (htext : c.text = ch :: text) :
    ∃ c', name c = .ok { kind := nameKind (nameText ch text) } c' ∧
      c.Passes (nameText ch text) c' := by
  obtain ⟨c', hrest, hword, hkeyword⟩ := wordRest_eq_ok h htext
  refine ⟨c', ?_, hword⟩
  have hscan : name c = (do
      identifierRest
      match ← keywordFrom? c.index with
      | some k => return { kind := .keyword k }
      | none => return { kind := .identifier } : Scanner Lexeme) (c.advanceBy 1) := rfl
  rw [hscan, nameKind]
  simp only [Bind.bind, EStateM.bind, hrest, hkeyword]
  cases Keyword.ofSpelling? (String.ofList (nameText ch text)) <;> rfl

theorem escapedName_eq_ok {mark sign : Char} (h : c.Started)
    (htext : c.text = mark :: sign :: ch :: text) :
    ∃ c', escapedName c = .ok { kind := escapedNameKind (nameText ch text) } c' ∧
      c.Passes (mark :: sign :: nameText ch text) c' := by
  have hopening : c.Passes [mark, sign] (c.advanceBy 2) :=
    Cursor.passes_advanceBy_length h ⟨ch :: text, htext.symm⟩
  have hname : (c.advanceBy 2).text = ch :: text := hopening.text_eq_of_append htext
  obtain ⟨c', hrest, hword, hkeyword⟩ := wordRest_eq_ok hopening.started hname
  refine ⟨c', ?_, hopening.trans hword⟩
  have hscan : escapedName c = (do
      identifierRest
      match ← keywordFrom? (c.advanceBy 2).index with
      | some _ => return { kind := .escapedKeyword }
      | none => return { kind := .identifier } : Scanner Lexeme)
        ((c.advanceBy 2).advanceBy 1) := rfl
  rw [hscan, escapedNameKind]
  simp only [Bind.bind, EStateM.bind, hrest, hkeyword]
  cases Keyword.ofSpelling? (String.ofList (nameText ch text)) <;> rfl

theorem operator_eq_ok {op : Operator} (h : c.Started) (htext : op.spelling.toList <+: c.text) :
    ∃ c', operator op c = .ok { kind := .operator op } c' ∧ c.Passes op.spelling.toList c' := by
  have hpass := Cursor.passes_advanceBy_length h htext
  rw [String.length_toList] at hpass
  exact ⟨_, rfl, hpass⟩

theorem unexpected_eq_ok (d : Char) (h : c.Started) (htext : c.text = ch :: text) :
    ∃ c', unexpected d c = .ok {
        kind := .syntaxError
        problem? := some ⟨⟨c.index, c.index + ch.utf8Size⟩, .unexpectedCharacter d⟩ } c' ∧
      c.Passes [ch] c' := by
  have hpass := Cursor.passes_advance (h.current_of_text_cons htext)
  have hstop : c.advance.index = c.index + ch.utf8Size := by simpa using hpass.index_eq
  exact ⟨_, hstop ▸ rfl, hpass⟩

/-! ## Comments -/

theorem pragmasBetween_of_spells {start stop : Nat} (h : Utf8.Spells c.bytes start stop text) :
    pragmasBetween c start stop = .ofComment start text := by
  rw [pragmasBetween, Span.slice, h.slice?_eq, Option.getD_some, Utf8.fromUTF8?_utf8Encode]
  simp only [String.toList_ofList]

/-- The code points of the comment that begins with `first` and `second`, in front of a text. -/
def lineText (first second : Char) (text : List Char) : List Char :=
  first :: second :: text.takeWhile (!isLineTerminator ·)

theorem lineComment_eq_ok {first second : Char} (doc : Bool) (h : c.Started)
    (htext : c.text = first :: second :: text) :
    ∃ c', lineComment doc c = .ok {
        kind := .lineComment
        flags := { docComment := doc }
        pragmas := .ofComment c.index (lineText first second text) } c' ∧
      c.Passes (lineText first second text) c' := by
  have hopening : c.Passes [first, second] (c.advanceBy 2) :=
    Cursor.passes_advanceBy_length h ⟨text, htext.symm⟩
  have hline := Cursor.passes_skipToLineEnd hopening.started
  rw [hopening.text_eq_of_append htext] at hline
  have hpass : c.Passes (lineText first second text) (c.advanceBy 2).skipToLineEnd :=
    hopening.trans hline
  have hpragmas := pragmasBetween_of_spells (hpass.bytes_eq.symm ▸ hpass.spells)
  exact ⟨_, hpragmas ▸ rfl, hpass⟩

/-- What stands behind the opening of a block comment inside which `depth` further comments are
open, up to the delimiter that closes it. -/
inductive CommentBody : (depth : Nat) → (text : List Char) → Prop
  | close : CommentBody 0 ['*', '/']
  | enter {depth : Nat} {text : List Char} (hrest : CommentBody (depth + 1) text) :
      CommentBody depth ('/' :: '*' :: text)
  | leave {depth : Nat} {text : List Char} (hrest : CommentBody depth text) :
      CommentBody (depth + 1) ('*' :: '/' :: text)
  | single {depth : Nat} {ch : Char} {text : List Char}
      (hopen : ¬ (ch = '/' ∧ text.head? = some '*')) (hclose : ¬ (ch = '*' ∧ text.head? = some '/'))
      (hrest : CommentBody depth text) : CommentBody depth (ch :: text)

theorem CommentBody.eq_append (h : CommentBody depth text) :
    ∃ inner, text = inner ++ ['*', '/'] := by
  induction h with
  | close => exact ⟨[], rfl⟩
  | enter _ ih =>
    obtain ⟨inner, rfl⟩ := ih
    exact ⟨'/' :: '*' :: inner, rfl⟩
  | leave _ ih =>
    obtain ⟨inner, rfl⟩ := ih
    exact ⟨'*' :: '/' :: inner, rfl⟩
  | @single _ ch _ _ _ _ ih =>
    obtain ⟨inner, rfl⟩ := ih
    exact ⟨ch :: inner, rfl⟩

theorem CommentBody.ne_nil (h : CommentBody depth text) : text ≠ [] := by
  cases h <;> exact List.cons_ne_nil _ _

theorem blockCommentRest_of_text (depth : Nat) (crossed : Bool) (h : c.Started)
    (htext : c.text = ch :: text) : ∃ c₁, c.Passes [] c₁ ∧
      blockCommentRest depth crossed c =
        if ch = '/' && text.head? == some '*' then
          blockCommentRest (depth + 1) crossed (c₁.advanceBy 2)
        else if ch = '*' && text.head? == some '/' then
          match depth with
          | 0 => .ok crossed (c₁.advanceBy 2)
          | depth + 1 => blockCommentRest depth crossed (c₁.advanceBy 2)
        else blockCommentRest depth (crossed || isLineTerminator ch) (c₁.advanceBy 1) := by
  have hnext : ∀ d, (c.peek 1).1.is d = (text.head? == some d) := by
    intro d
    rw [h.peek_eq 1 (by decide), CodePoint.is_ofChar?, htext, List.getElem?_cons_succ, List.head?_eq_getElem?]
  refine ⟨(c.peek 1).2, Cursor.passes_peek h 1, ?_⟩
  rw [blockCommentRest_def, h.current_of_text_cons htext]
  cases depth <;> simp only [hnext]

theorem passes_advanceBy_two {c₁ : Cursor} {first second : Char} (hahead : c.Passes [] c₁)
    (htext : c.text = first :: second :: text) : c.Passes [first, second] (c₁.advanceBy 2) := by
  have hword : [first, second] <+: c₁.text := ⟨text, (hahead.text_eq_of_nil.trans htext).symm⟩
  exact hahead.trans (Cursor.passes_advanceBy_length hahead.started hword)

theorem blockCommentRest_of_enter (depth : Nat) (crossed : Bool) (h : c.Started)
    (htext : c.text = '/' :: '*' :: text) : ∃ c₁, c.Passes ['/', '*'] c₁ ∧
      blockCommentRest depth crossed c = blockCommentRest (depth + 1) crossed c₁ := by
  obtain ⟨c₁, hahead, heq⟩ := blockCommentRest_of_text depth crossed h htext
  exact ⟨_, passes_advanceBy_two hahead htext, heq⟩

theorem blockCommentRest_of_leave (depth : Nat) (crossed : Bool) (h : c.Started)
    (htext : c.text = '*' :: '/' :: text) : ∃ c₁, c.Passes ['*', '/'] c₁ ∧
      blockCommentRest depth crossed c = match depth with
        | 0 => .ok crossed c₁
        | depth + 1 => blockCommentRest depth crossed c₁ := by
  obtain ⟨c₁, hahead, heq⟩ := blockCommentRest_of_text depth crossed h htext
  exact ⟨_, passes_advanceBy_two hahead htext, heq⟩

theorem blockCommentRest_of_single (depth : Nat) (crossed : Bool) (h : c.Started)
    (htext : c.text = ch :: text) (hopen : ¬ (ch = '/' ∧ text.head? = some '*'))
    (hclose : ¬ (ch = '*' ∧ text.head? = some '/')) : ∃ c₁, c.Passes [ch] c₁ ∧
      blockCommentRest depth crossed c =
        blockCommentRest depth (crossed || isLineTerminator ch) c₁ := by
  obtain ⟨c₁, hahead, heq⟩ := blockCommentRest_of_text depth crossed h htext
  rw [if_neg (by simpa using hopen), if_neg (by simpa using hclose)] at heq
  have hcur := hahead.started.current_of_text_cons (hahead.text_eq_of_nil.trans htext)
  exact ⟨_, hahead.trans (Cursor.passes_advance hcur), heq⟩

/-- A scan that comes to an end has passed a body. -/
theorem commentBody_of_eq_ok {crossed crossed' : Bool} (h : c.Started)
    (hscan : blockCommentRest depth crossed c = .ok crossed' c') :
    ∃ text, c.Passes text c' ∧ CommentBody depth text := by
  generalize hn : c.text.length = n
  induction n using Nat.strongRecOn generalizing c depth crossed with
  | ind n ih =>
    have hlt : ∀ {passed c₁}, c.Passes passed c₁ → passed ≠ [] → c₁.text.length < n := by
      intro passed c₁ hpass hne
      have hpos := List.length_pos_iff.2 hne
      rw [← hn, hpass.text_eq, List.length_append]
      omega
    cases htext : c.text with
    | nil =>
      rw [blockCommentRest.eq_def] at hscan
      split at hscan
      · rename_i ch hcur
        rw [Cursor.text_of_scalar hcur] at htext
        cases htext
      · cases hscan
    | cons ch text =>
      by_cases hopen : ch = '/' ∧ text.head? = some '*'
      · obtain ⟨rfl, hnext⟩ := hopen
        obtain ⟨more, rfl⟩ := List.head?_eq_some_iff.1 hnext
        obtain ⟨c₁, hpass, heq⟩ := blockCommentRest_of_enter depth crossed h htext
        rw [heq] at hscan
        obtain ⟨body, hbody, hcomment⟩ :=
          ih _ (hlt hpass (List.cons_ne_nil _ _)) hpass.started hscan rfl
        exact ⟨_, hpass.trans hbody, .enter hcomment⟩
      · by_cases hclose : ch = '*' ∧ text.head? = some '/'
        · obtain ⟨rfl, hnext⟩ := hclose
          obtain ⟨more, rfl⟩ := List.head?_eq_some_iff.1 hnext
          obtain ⟨c₁, hpass, heq⟩ := blockCommentRest_of_leave depth crossed h htext
          rw [heq] at hscan
          cases depth with
          | zero =>
            cases hscan
            exact ⟨_, hpass, .close⟩
          | succ depth =>
            obtain ⟨body, hbody, hcomment⟩ :=
              ih _ (hlt hpass (List.cons_ne_nil _ _)) hpass.started hscan rfl
            exact ⟨_, hpass.trans hbody, .leave hcomment⟩
        · obtain ⟨c₁, hpass, heq⟩ := blockCommentRest_of_single depth crossed h htext hopen hclose
          rw [heq] at hscan
          obtain ⟨body, hbody, hcomment⟩ :=
            ih _ (hlt hpass (List.cons_ne_nil _ _)) hpass.started hscan rfl
          have hhead : text.head? = body.head? := by
            rw [← hpass.text_eq_of_append htext, hbody.text_eq, List.head?_append,
              Option.or_of_isSome (List.isSome_head?.2 hcomment.ne_nil)]
          rw [hhead] at hopen hclose
          exact ⟨_, hpass.trans hbody, .single hopen hclose hcomment⟩

/-- A body is passed, whatever is behind it. -/
theorem blockCommentRest_of_body (hbody : CommentBody depth text) (crossed : Bool) (h : c.Started)
    (htext : c.text = text ++ rest) :
    ∃ c', blockCommentRest depth crossed c = .ok (crossed || text.any isLineTerminator) c' ∧
      c.Passes text c' := by
  induction hbody generalizing c crossed with
  | close =>
    obtain ⟨c₁, hpass, heq⟩ := blockCommentRest_of_leave 0 crossed h htext
    have hnone : ['*', '/'].any isLineTerminator = false := rfl
    exact ⟨c₁, by rw [heq, hnone, Bool.or_false], hpass⟩
  | @enter depth text _ ih =>
    obtain ⟨c₁, hpass, heq⟩ := blockCommentRest_of_enter depth crossed h htext
    obtain ⟨c', hrest, hbody⟩ := ih crossed hpass.started (hpass.text_eq_of_append htext)
    exact ⟨c', heq.trans hrest, hpass.trans hbody⟩
  | @leave depth text _ ih =>
    obtain ⟨c₁, hpass, heq⟩ := blockCommentRest_of_leave (depth + 1) crossed h htext
    obtain ⟨c', hrest, hbody⟩ := ih crossed hpass.started (hpass.text_eq_of_append htext)
    exact ⟨c', heq.trans hrest, hpass.trans hbody⟩
  | @single depth ch text hopen hclose hbody ih =>
    have hhead : text.head? = (text ++ rest).head? := by
      rw [List.head?_append, Option.or_of_isSome (List.isSome_head?.2 hbody.ne_nil)]
    rw [hhead] at hopen hclose
    obtain ⟨c₁, hpass, heq⟩ := blockCommentRest_of_single depth crossed h htext hopen hclose
    obtain ⟨c', hrest, hbody⟩ := ih (crossed || isLineTerminator ch) hpass.started
      (hpass.text_eq_of_append htext)
    refine ⟨c', ?_, hpass.trans hbody⟩
    rw [heq, hrest, List.any_cons, Bool.or_assoc]

/-- Behind the opening, a block comment is its body. -/
theorem blockComment_eq (legal : Bool) (c : Cursor) :
    blockComment legal c = (do
      let crossed ← blockCommentRest 0 false
      return {
        kind := .blockComment
        flags := { legalComment := legal }
        pragmas := pragmasBetween (← get) c.index ((← index) - 2)
        crossesLine := crossed } : Scanner Lexeme) (c.advanceBy 2) := rfl

/-- What a block comment comes to, of which `inner` stands between the delimiters. -/
theorem blockComment_eq_ok {inner : List Char} (legal : Bool) (h : c.Started)
    (htext : c.text = ('/' :: '*' :: (inner ++ ['*', '/'])) ++ rest)
    (hbody : CommentBody 0 (inner ++ ['*', '/'])) :
    ∃ c', blockComment legal c = .ok {
        kind := .blockComment
        flags := { legalComment := legal }
        pragmas := .ofComment c.index ('/' :: '*' :: inner)
        crossesLine := inner.any isLineTerminator } c' ∧
      c.Passes ('/' :: '*' :: (inner ++ ['*', '/'])) c' := by
  have hopening : c.Passes ['/', '*'] (c.advanceBy 2) :=
    Cursor.passes_advanceBy_length h ⟨_, htext.symm⟩
  have hinner := hopening.text_eq_of_append htext
  obtain ⟨c', hrest, hpass⟩ := blockCommentRest_of_body hbody false hopening.started hinner
  have hall : c.Passes ('/' :: '*' :: (inner ++ ['*', '/'])) c' := hopening.trans hpass
  refine ⟨c', ?_, hall⟩
  have hspells : Utf8.Spells c'.bytes c.index (c'.index - 2) ('/' :: '*' :: inner) := by
    have hwhole : Utf8.Spells c.bytes c.index c'.index (('/' :: '*' :: inner) ++ ['*', '/']) :=
      hall.spells
    have hparts := hwhole.split
    have hstop := hparts.2.stop_eq
    have hclosing : Utf8.size ['*', '/'] = 2 := rfl
    rw [hclosing] at hstop
    rw [hstop, Nat.add_sub_cancel, hall.bytes_eq]
    exact hparts.1
  have hcrossed : (false || (inner ++ ['*', '/']).any isLineTerminator) =
      inner.any isLineTerminator := by
    rw [List.any_append, Bool.false_or]
    exact Bool.or_false _
  rw [blockComment_eq]
  simp only [Bind.bind, EStateM.bind, hrest, hcrossed]
  rw [← pragmasBetween_of_spells hspells]
  rfl

theorem commentBody_of_blockComment {legal : Bool} {lexeme : Lexeme} (h : c.Started)
    (htext : c.text = '/' :: '*' :: text) (hscan : blockComment legal c = .ok lexeme c') :
    ∃ inner rest, text = (inner ++ ['*', '/']) ++ rest ∧
      CommentBody 0 (inner ++ ['*', '/']) := by
  have hopening : c.Passes ['/', '*'] (c.advanceBy 2) :=
    Cursor.passes_advanceBy_length h ⟨_, htext.symm⟩
  rw [blockComment_eq] at hscan
  obtain ⟨crossed, c₁, hrest, -⟩ := bind_eq_ok_iff.1 hscan
  obtain ⟨body, hpass, hcomment⟩ := commentBody_of_eq_ok hopening.started hrest
  obtain ⟨inner, rfl⟩ := hcomment.eq_append
  refine ⟨inner, c₁.text, ?_, hcomment⟩
  rw [← hpass.text_eq, hopening.text_eq_of_append htext]

/-- A block comment that is not closed is broken off at the end of the text. -/
theorem blockComment_eq_error {legal : Bool} {e : LexError} (h : c.Started)
    (hscan : blockComment legal c = .error e c') :
    e = .atOffset .unterminatedBlockComment (c.index + Utf8.size c.text) := by
  have hopening := Cursor.passes_advanceBy h 2
  have hclosed := closedBehind_blockCommentRest hopening.started 0 false
  rw [blockComment_eq] at hscan
  cases hrest : blockCommentRest 0 false (c.advanceBy 2) with
  | ok crossed c₁ =>
    simp only [Bind.bind, EStateM.bind, hrest] at hscan
    cases hscan
  | error e' c₁ =>
    simp only [Bind.bind, EStateM.bind, hrest] at hscan
    cases hscan
    rw [hrest, ClosedBehind, hopening.stop_eq] at hclosed
    exact hclosed

end Scanner

end Lexis
