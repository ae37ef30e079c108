import Lexis.Proofs.Beside.Token
import Lexis.Proofs.Lexer.Reached
import Lexis.Proofs.Token.KeywordTable

/-!
# Names are as long as they can be

A name goes on as far as single code points continue it, with or without the prefix `r#`, and its
spelling alone settles whether it is a keyword, an escaped one or an identifier
(`Lexer.Reached.name_maximal`).
-/

namespace Lexis

open CharClass

/-- A code point that starts a name, and others that continue it. -/
def IsName (text : List Char) : Prop :=
  ∃ ch rest, text = ch :: rest ∧ isIdentStart ch = true ∧ ∀ d ∈ rest, isIdentContinue d = true

/-! ## Bytes and code points -/

namespace Scanner

/-- A run of bytes and single code points behind it lead where single code points lead. -/
theorem plain_identifierRest (c : Cursor) :
    ∃ c', identifierRest c = .ok () c' ∧ c'.plain = (c.skipWhile isIdentContinue).plain := by
  let d := c.skipAsciiWhile isAsciiIdentContinue
  have hascii : d.plain = c.plain.stepWhile fun ch => isAscii ch && isAsciiIdentContinue ch :=
    Cursor.plain_skipAsciiWhile _ c
  have hplain : (c.skipWhile isIdentContinue).plain = d.plain.stepWhile isIdentContinue := by
    rw [Cursor.plain_skipWhile, hascii, PlainCursor.stepWhile_stepWhile]
    intro ch hch
    obtain ⟨hlow, hword⟩ := Bool.and_eq_true_iff.1 hch
    rwa [isIdentContinue_of_ascii hlow]
  have hrest : identifierRest c =
      (if d.current.toChar?.any (!isAscii ·) then move (·.skipWhile isIdentContinue)
        else pure () : Scanner Unit) d := rfl
  rw [hrest, hplain]
  by_cases hmore : d.current.toChar?.any (!isAscii ·) = true
  · rw [if_pos hmore]
    exact ⟨_, rfl, Cursor.plain_skipWhile isIdentContinue d⟩
  · rw [if_neg hmore]
    refine ⟨d, rfl, (PlainCursor.stepWhile_of_forall_ne ?_).symm⟩
    intro ch hcur
    -- The run of bytes ended at an ASCII code point, which does not continue a name.
    have hcur' : d.current = .scalar ch := hcur
    have hlow : isAscii ch = true := by simpa [hcur', CodePoint.toChar?] using hmore
    have hnot := PlainCursor.not_of_current_stepWhile (hascii ▸ hcur)
    rw [isIdentContinue_of_ascii hlow]
    simpa [hlow] using hnot

end Scanner

/-! ## Names and keywords -/

section Word

open Scanner (nameText nameKind escapedNameKind)

variable {ch : Char} {rest text : List Char} {k : Keyword}

theorem isName_nameText (h : isIdentStart ch = true) : IsName (nameText ch rest) :=
  ⟨ch, _, rfl, h, fun _ hd => List.all_eq_true.1 List.all_takeWhile _ hd⟩

theorem IsName.numberSign_not_mem (h : IsName text) : '#' ∉ text := by
  obtain ⟨ch, rest, rfl, hstart, hall⟩ := h
  intro hsign
  obtain rfl | hsign := List.mem_cons.1 hsign
  · cases hstart
  · cases hall '#' hsign

/-- What is left behind a name does not continue it. -/
theorem any_head?_of_nameText_append {behind : List Char}
    (h : nameText ch rest ++ behind = ch :: rest) : behind.head?.any isIdentContinue = false := by
  have hrest : rest.takeWhile isIdentContinue ++ behind = rest := (List.cons.inj h).2
  have hrun : (rest.takeWhile isIdentContinue ++ behind).takeWhile isIdentContinue =
      rest.takeWhile isIdentContinue := congrArg _ hrest
  exact Cursor.any_head?_of_takeWhile_append hrun

theorem nameKind_eq_keyword_iff : nameKind text = .keyword k ↔ String.ofList text = k.spelling := by
  rw [← Keyword.ofSpelling?_eq_some_iff, nameKind]
  cases Keyword.ofSpelling? (String.ofList text) with
  | none => simp
  | some k' => simp

theorem nameKind_ne_escapedKeyword (text : List Char) : nameKind text ≠ .escapedKeyword := by
  unfold nameKind
  split <;> nofun

theorem escapedNameKind_eq_escapedKeyword_iff :
    escapedNameKind text = .escapedKeyword ↔ ∃ k : Keyword, String.ofList text = k.spelling := by
  simp only [← Keyword.ofSpelling?_eq_some_iff, escapedNameKind]
  cases Keyword.ofSpelling? (String.ofList text) with
  | none => simp
  | some k => exact iff_of_true rfl ⟨k, rfl⟩

theorem escapedNameKind_ne_keyword (text : List Char) (k : Keyword) :
    escapedNameKind text ≠ .keyword k := by
  unfold escapedNameKind
  split <;> nofun

end Word

namespace Lexer

open Scanner (nameText nameKind escapedNameKind)

variable {source : Source} {config : LexerConfig} {l : Lexer} {t : Token}

/-- How a token is the name that stands at its offset. -/
inductive NameAt (bytes : ByteArray) (t : Token) : Prop
  | plain {ch : Char} {rest : List Char} (text_eq : Utf8.textFrom bytes t.offset = ch :: rest)
      (starts : isIdentStart ch = true)
      (spells : Utf8.Spells bytes t.offset t.stop (nameText ch rest))
      (kind_eq : t.kind = nameKind (nameText ch rest)) : NameAt bytes t
  | escaped {ch : Char} {rest : List Char}
      (text_eq : Utf8.textFrom bytes t.offset = 'r' :: '#' :: ch :: rest)
      (starts : isIdentStart ch = true)
      (spells : Utf8.Spells bytes t.offset t.stop ('r' :: '#' :: nameText ch rest))
      (kind_eq : t.kind = escapedNameKind (nameText ch rest)) : NameAt bytes t

def IsNameKind (kind : TokenKind) : Prop :=
  kind = .identifier ∨ kind = .escapedKeyword ∨ ∃ k, kind = .keyword k

theorem IsNameKind.not_mem {kind : TokenKind} (h : IsNameKind kind) :
    kind ∉ [TokenKind.endOfInput, .hashbang, .templateMiddle, .templateTail] := by
  obtain rfl | rfl | ⟨k, rfl⟩ := h <;> simp

/-- Names are found by no other scanners than those of names. -/
theorem opening_of_isNameKind {opening : Opening} {kind : TokenKind} (hmakes : opening.Makes kind)
    (hkind : IsNameKind kind) : opening = .name ∨ opening = .escapedName := by
  cases opening with
  | name => exact .inl rfl
  | escapedName => exact .inr rfl
  | leadingZero => exact hmakes.elim
  | number | basedNumber => obtain rfl | rfl | rfl := hmakes <;> simp [IsNameKind] at hkind
  | template => obtain rfl | rfl := hmakes <;> simp [IsNameKind] at hkind
  | _ => cases hmakes; simp [IsNameKind] at hkind

theorem Origin.nameAt (h : Origin source t) (hkind : IsNameKind t.kind) :
    NameAt source.contents t := by
  obtain ⟨c, c', ch, lexeme, newline, hat, hcur, hscan, rfl⟩ := h.exists_scan hkind.not_mem
  have hmakes := makes_of_scanAt hscan
  have htells := Opening.tells_of ch (c.lookahead 3).1
  have hahead := Cursor.passes_lookahead (.of_scalar hcur) 3
  have htext := Cursor.text_of_scalar hcur
  have hplace := hat.text_eq.symm.trans htext
  rw [scanAt] at hscan
  obtain hopening | hopening := opening_of_isNameKind hmakes hkind
  · rw [hopening] at htells hscan
    obtain ⟨d, hname, hpass⟩ :=
      Scanner.name_eq_ok hahead.started (hahead.text_eq_of_nil.trans htext)
    cases hname.symm.trans hscan
    exact .plain hplace htells (hat.spells_tokenOf (hahead.trans hpass) newline) rfl
  · rw [hopening] at htells hscan
    obtain ⟨rfl, next, ahead, heq, hstart⟩ := htells
    obtain ⟨rest, hrest⟩ : ['#', next] <+: c.upcoming := by
      have hprefix : ['#', next] <+: c.upcoming.take 3 := by
        rw [← Cursor.lookahead_fst, heq]
        exact ⟨ahead, rfl⟩
      exact hprefix.trans (List.take_prefix 3 c.upcoming)
    rw [← hrest] at htext hplace
    obtain ⟨d, hname, hpass⟩ :=
      Scanner.escapedName_eq_ok hahead.started (hahead.text_eq_of_nil.trans htext)
    cases hname.symm.trans hscan
    exact .escaped hplace hstart (hat.spells_tokenOf (hahead.trans hpass) newline) rfl

theorem displayName_keyword_eq_iff {k : Keyword} {text : String} :
    (TokenKind.keyword k).displayName = "`" ++ text ++ "`" ↔ text = k.spelling := by
  constructor
  · intro h
    have hlist := congrArg String.toList h
    simp only [TokenKind.displayName, String.toList_append, List.append_cancel_left_eq,
      List.append_cancel_right_eq] at hlist
    exact (String.toList_inj.1 hlist).symm
  · rintro rfl
    rfl

theorem escaped_eq_iff {name : String} {k : Keyword} :
    "r#" ++ name = "r#" ++ k.spelling ↔ name = k.spelling := by
  constructor
  · intro h
    have hlist := congrArg String.toList h
    rw [String.toList_append, String.toList_append, List.append_cancel_left_eq] at hlist
    exact String.toList_inj.1 hlist
  · rintro rfl
    rfl

/-- What the kind of a token says of its text, if it is a name. -/
structure Classified (kind : TokenKind) (text : String) : Prop where
  keyword : ∀ k, kind = .keyword k ↔ (TokenKind.keyword k).displayName = "`" ++ text ++ "`"
  escaped : kind = .escapedKeyword ↔ ∃ k : Keyword, text = "r#" ++ k.spelling
  identifier : kind = .identifier ↔ ∀ k : Keyword, text ≠ k.spelling ∧ text ≠ "r#" ++ k.spelling

theorem Classified.of_iff {kind : TokenKind} {text : String} (hkind : IsNameKind kind)
    (hkeyword : ∀ k, kind = .keyword k ↔ text = k.spelling)
    (hescaped : kind = .escapedKeyword ↔ ∃ k : Keyword, text = "r#" ++ k.spelling) :
    Classified kind text := by
  refine ⟨fun k => (hkeyword k).trans displayName_keyword_eq_iff.symm, hescaped, ?_⟩
  constructor
  · rintro rfl k
    exact ⟨fun h => (nomatch (hkeyword k).2 h), fun h => (nomatch hescaped.2 ⟨k, h⟩)⟩
  · intro h
    obtain hidentifier | hkind | ⟨k, hkind⟩ := hkind
    · exact hidentifier
    · obtain ⟨k, htext⟩ := hescaped.1 hkind
      exact absurd htext (h k).2
    · exact absurd ((hkeyword k).1 hkind) (h k).1

variable {bytes : ByteArray}

theorem NameAt.exists_isName (h : NameAt bytes t) : ∃ name, IsName name ∧
    (Utf8.Spells bytes t.offset t.stop name ∨
      Utf8.Spells bytes t.offset t.stop ('r' :: '#' :: name)) := by
  cases h with
  | plain _ hstart hspells => exact ⟨_, isName_nameText hstart, .inl hspells⟩
  | escaped _ hstart hspells => exact ⟨_, isName_nameText hstart, .inr hspells⟩

theorem NameAt.not_continued (h : NameAt bytes t) :
    (Utf8.charAt? bytes t.stop).any isIdentContinue = false := by
  rw [← Utf8.head?_textFrom]
  cases h with
  | plain htext _ hspells =>
    exact any_head?_of_nameText_append (hspells.textFrom_eq.symm.trans htext)
  | escaped htext _ hspells =>
    have hname := hspells.textFrom_eq.symm.trans htext
    exact any_head?_of_nameText_append (List.cons.inj (List.cons.inj hname).2).2

theorem NameAt.classified (h : NameAt bytes t) (hkind : IsNameKind t.kind) :
    Classified t.kind (t.text bytes) := by
  cases h with
  | @plain ch rest _ hstart hspells heq =>
    have htext := Token.text_of_spells hspells
    have hname : IsName (nameText ch rest) := isName_nameText hstart
    refine .of_iff hkind (fun k => ?_) ?_
    · rw [heq, htext]
      exact nameKind_eq_keyword_iff
    · rw [heq, htext]
      refine iff_of_false (nameKind_ne_escapedKeyword _) ?_
      rintro ⟨k, hk⟩
      have hsign : '#' ∈ (String.ofList (nameText ch rest)).toList := by
        rw [hk, String.toList_append]
        exact List.mem_append_left _ (by decide)
      rw [String.toList_ofList] at hsign
      exact hname.numberSign_not_mem hsign
  | @escaped ch rest _ hstart hspells heq =>
    have htext : t.text bytes = "r#" ++ String.ofList (nameText ch rest) := by
      rw [Token.text_of_spells hspells]
      show String.ofList (['r', '#'] ++ nameText ch rest) = _
      rw [String.ofList_append]
    refine .of_iff hkind (fun k => ?_) ?_
    · rw [heq, htext]
      refine iff_of_false (escapedNameKind_ne_keyword _ k) fun hk => ?_
      apply k.numberSign_not_mem_spelling
      rw [← hk, String.toList_append]
      exact List.mem_append_left _ (by decide)
    · rw [heq, htext, escapedNameKind_eq_escapedKeyword_iff]
      simp only [escaped_eq_iff]

/-- A name that a caller is handed begins with a code point that starts a name, behind `r#` or not,
and goes on as far as code points continue it. It is of the kind that its spelling says. Keywords
may be looked up by their length, and skipping bytes leads where skipping code points does. -/
theorem Reached.name_maximal (h : Reached source config l) (hnext : l.next.1 = .ok t)
    (hkind : IsNameKind t.kind) :
    (∃ name, IsName name ∧ (Utf8.Spells source.contents t.offset t.stop name ∨
      Utf8.Spells source.contents t.offset t.stop ('r' :: '#' :: name))) ∧
    (Utf8.charAt? source.contents t.stop).any isIdentContinue = false ∧
    Classified t.kind (t.text source.contents) ∧
    (∀ text, Keyword.lookup? text = (String.fromUTF8? text).bind Keyword.ofSpelling?) ∧
    ∀ c, ∃ c', Scanner.identifierRest c = .ok () c' ∧
      c'.plain = (c.skipWhile isIdentContinue).plain := by
  have hname := (h.origin hnext).nameAt hkind
  exact ⟨hname.exists_isName, hname.not_continued, hname.classified hkind, Keyword.lookup?_eq,
    Scanner.plain_identifierRest⟩

/-- A keyword that goes on as a name, and one that is escaped. -/
def keywordNames : Source := ⟨"names", "fné r#if".toUTF8, 0, by decide⟩

theorem name_maximal_keywordNames :
    ∃ t, ((Lexer.ofSource keywordNames {}).meet .next).2.next.1 = .ok t ∧
      Classified .escapedKeyword (t.text keywordNames.contents) ∧
      ∃ k : Keyword, t.text keywordNames.contents = "r#" ++ k.spelling := by
  have hnext : ((Lexer.ofSource keywordNames {}).meet .next).2.next.1 =
      .ok { kind := .escapedKeyword, offset := 5, len := 4 } := by
    decide +kernel
  obtain ⟨-, -, hclassified, -, -⟩ :=
    Reached.name_maximal (.meet .fresh .next) hnext (.inr (.inl rfl))
  exact ⟨_, hnext, hclassified, hclassified.escaped.1 rfl⟩

end Lexer

end Lexis
