import Lexis.Proofs.Beside.Token

/-!
# A token alone

What is behind a token settles where the token ends, and its opening may have been recognised by
looking at that. A token of fewer than four code points has the same opening where nothing follows
(`Opening.of_passed`), so that it is found there as well (`scanAt_alone`).
-/

namespace Lexis

open CharClass

theorem Cursor.Passes.unique {c c' : Cursor} {passed passed' : List Char} (h : c.Passes passed c')
    (h' : c.Passes passed' c') : passed = passed' :=
  List.append_cancel_right (h.text_eq.symm.trans h'.text_eq)

namespace Scanner

variable {c c' : Cursor} {lexeme : Lexeme} {rest : List Char}

/-! ## What scanners pass at least -/

theorem passes_quoted {style : QuoteStyle} {kinds : Ending → TokenKind} {flags : TokenFlags}
    (h : c.Started) (hopening : style.opening <+: c.text)
    (hscan : quoted style style.opening.length kinds flags c = .ok lexeme c') :
    ∃ more, c.Passes (style.opening ++ more) c' := by
  have hpass := Cursor.passes_advanceBy_length h hopening
  obtain ⟨body, text?, hbody, -⟩ := quoted_eq_ok_iff.1 hscan
  obtain ⟨more, hmore⟩ := passing_quotedBody _ _ _ _ _ hpass.started hbody
  exact ⟨more, hpass.trans hmore⟩

theorem passes_rawString (h : c.Started) (hmark : ['r'] <+: c.text)
    (hscan : rawString c = .ok lexeme c') :
    ∃ hashes more, c.Passes ((QuoteStyle.raw hashes).opening ++ more) c' := by
  obtain ⟨hquote, body, text?, hbody, -⟩ := (rawString_eq_ok_iff rfl).1 hscan
  have hpass := passes_rawOpening h hmark hquote
  obtain ⟨more, hmore⟩ := passing_quotedBody _ _ _ _ _ hpass.started hbody
  exact ⟨_, more, hpass.trans hmore⟩

theorem passes_basedNumber {base : Base} {zero letter : Char} (h : c.Started)
    (htext : c.text = zero :: letter :: rest) (hscan : basedNumber base c = .ok lexeme c') :
    ∃ more, c.Passes (zero :: letter :: more) c' := by
  have hpass : c.Passes [zero, letter] (c.advanceBy 2) :=
    Cursor.passes_advanceBy_length h ⟨rest, htext.symm⟩
  have hrest : Passing (digits base.radix >>= fun ns =>
      if ns.isEmpty then fail (.atOffset (.missingDigits base.marker) (c.advanceBy 2).index)
      else numberLexeme (Numeral.based base ns).value) := by
    refine (passing_digits _).bind fun ns => ?_
    split
    · exact passing_fail _
    · exact passing_numberLexeme _
  obtain ⟨more, hmore⟩ := hrest _ _ _ hpass.started hscan
  exact ⟨more, hpass.trans hmore⟩

/-- A number that begins with a dot goes on with a digit. -/
theorem passes_decimalNumber_of_dot {digit : Char} (h : c.Started)
    (htext : c.text = '.' :: digit :: rest) (hdigit : digit.isDigit = true)
    (hscan : decimalNumber c = .ok lexeme c') :
    ∃ passed, c.Passes passed c' ∧ 1 < passed.length := by
  obtain ⟨ns, c₁, hwhole, hbehind⟩ := bind_eq_ok_iff.1 hscan
  obtain ⟨fraction?, c₂, hfraction, hlast⟩ := bind_eq_ok_iff.1 hbehind
  have hdot : startsFraction c.text = true := by
    rw [htext]
    simp [startsFraction, hdigit]
  have hnot : ('.' :: digit :: rest).head?.any Char.isDigit = false := rfl
  rw [whole_eq h, htext, hnot, if_neg Bool.false_ne_true] at hwhole
  cases hwhole
  have hahead := Cursor.passes_peek h 1
  rw [fraction_eq h, if_pos hdot] at hfraction
  rw [← hahead.text_eq_of_nil] at hdot
  obtain ⟨passed, hpass, hlt⟩ := fractionDigits_eq_ok hahead.started hdot hfraction
  have hrest : Passing (exponent >>= fun e =>
      numberLexeme (Numeral.decimal [] fraction? e).value) :=
    passing_exponent.bind fun e => passing_numberLexeme _
  obtain ⟨more, hmore⟩ := hrest _ _ _ hpass.started hlast
  refine ⟨_, (hahead.trans hpass).trans hmore, ?_⟩
  rw [List.nil_append, List.length_append]
  exact Nat.lt_of_lt_of_le hlt (Nat.le_add_right _ _)

end Scanner

namespace Opening

variable {ch : Char} {t ahead : List Char}

theorem not_isDigit_of_isIdentStart (h : isIdentStart ch = true) : ch.isDigit = false := by
  cases hdigit : ch.isDigit with
  | false => rfl
  | true =>
    simp only [Char.isDigit, Bool.and_eq_true, decide_eq_true_eq, ge_iff_le,
      UInt32.le_iff_toNat_le] at hdigit
    have hascii : isAscii ch = true := decide_eq_true (Nat.lt_of_le_of_lt hdigit.2 (by decide))
    rw [isIdentStart, if_pos hascii, isAsciiIdentStart, Bool.or_eq_true] at h
    obtain hletter | hsep := h
    · have hlast : ch.val.toNat ≤ 57 := hdigit.2
      obtain hupper | hlower := Bool.or_eq_true_iff.1 hletter
      · have hfirst : 65 ≤ ch.val.toNat := (of_decide_eq_true hupper).1
        omega
      · have hfirst : 97 ≤ ch.val.toNat :=
          of_decide_eq_true (Bool.and_eq_true_iff.1 hlower).1
        omega
    · rw [eq_of_beq hsep] at hdigit
      exact absurd hdigit.2 (by decide)

theorem of_eq_name (h : isIdentStart ch = true) (hrest : ∀ d ∈ t, isIdentContinue d = true) :
    Opening.of ch t = .name := by
  by_cases hmark : ch ∈ marks
  · simp only [marks, List.mem_cons, List.not_mem_nil, or_false] at hmark
    obtain rfl | rfl | rfl | rfl | rfl | rfl | rfl := hmark <;> try cases h
    cases t with
    | nil => rfl
    | cons next t =>
      rw [List.forall_mem_cons] at hrest
      refine of_r ?_ ?_ t
      · rintro rfl
        cases hrest.1
      · rintro rfl
        cases hrest.1
  · rw [of_of_not_mem hmark, not_isDigit_of_isIdentStart h, ofOther,
      Operator.recognize?_of_isIdentStart h]
    simp [h]

theorem of_eq_number_of_isDigit (h : ch.isDigit = true) (hzero : ch = '0' → t = []) :
    Opening.of ch t = .number := by
  by_cases hmark : ch ∈ marks
  · simp only [marks, List.mem_cons, List.not_mem_nil, or_false] at hmark
    obtain rfl | rfl | rfl | rfl | rfl | rfl | rfl := hmark <;> try cases h
    rw [hzero rfl]
    rfl
  · rw [of_of_not_mem hmark, if_pos h]

theorem of_eq_unexpected {problem : Char} (h : Opening.of ch ahead = .unexpected problem) :
    Opening.of ch [] = .unexpected problem := by
  have htells := tells_of ch ahead
  rw [h] at htells
  obtain ⟨rfl, hdigit, hstart, hop⟩ := htells
  by_cases hmark : problem ∈ marks
  · simp only [marks, List.mem_cons, List.not_mem_nil, or_false] at hmark
    obtain rfl | rfl | rfl | rfl | rfl | rfl | rfl := hmark
    · cases hop
    · by_cases htriple : ∃ rest, ahead = '"' :: '"' :: rest
      · obtain ⟨rest, rfl⟩ := htriple
        cases h
      · rw [of_eq_string fun rest hrest => htriple ⟨rest, hrest⟩] at h
        cases h
    · cases h
    · cases h
    · cases hstart
    · cases hdigit
    · have hdot : Operator.dot.spelling.toList <+: '.' :: ahead := ⟨ahead, rfl⟩
      exact absurd hop (Operator.recognize?_ne_none hdot)
  · have hnone : Operator.recognize? [problem] = none := by
      cases hfound : Operator.recognize? [problem] with
      | none => rfl
      | some op =>
        have hspelled := Operator.spelling_prefix_of_recognize? hfound
        have hlonger := hspelled.trans (List.prefix_append [problem] ahead)
        exact absurd hop (Operator.recognize?_ne_none hlonger)
    rw [of_of_not_mem hmark, hdigit, if_neg Bool.false_ne_true, ofOther, hnone]
    simp [hstart]

theorem of_eq_rawString {hashes : Nat} {more : List Char}
    (ht : ch :: t = (QuoteStyle.raw hashes).opening ++ more) : Opening.of ch t = .rawString := by
  match hashes, ht with
  | 0, ht => cases ht; rfl
  | 1, ht => cases ht; rfl
  | _ + 2, ht => cases ht; rfl

section Passed

variable {c c' : Cursor} {lexeme : Lexeme} {more : List Char}

theorem of_passed_lineComment {doc : Bool} (h : c.Started)
    (htext : c.text = ch :: ((t ++ ahead) ++ more))
    (hopening : Opening.of ch (t ++ ahead) = .lineComment doc)
    (hscan : Scanner.lineComment doc c = .ok lexeme c') (hpass : c.Passes (ch :: t) c') :
    Opening.of ch t = .lineComment doc := by
  have htells := tells_of ch (t ++ ahead)
  rw [hopening] at htells
  obtain ⟨rfl, rest, hrest⟩ := htells
  rw [hrest] at htext
  obtain ⟨c₁, hscan', hpass'⟩ := Scanner.lineComment_eq_ok doc h htext
  cases hscan.symm.trans hscan'
  have ht : t = '/' :: (rest ++ more).takeWhile (!isLineTerminator ·) :=
    (List.cons.inj (hpass.unique hpass')).2
  generalize hrun : (rest ++ more).takeWhile (!isLineTerminator ·) = run at ht
  subst ht
  obtain rfl : rest = run ++ ahead := (List.cons.inj hrest).2.symm
  -- What ends the comment is no slash.
  have hend : ahead.head? ≠ some '/' := by
    rw [List.append_assoc] at hrun
    have hhead := Cursor.any_head?_of_takeWhile_append hrun
    intro hslash
    rw [List.head?_append, hslash] at hhead
    cases hhead
  rwa [List.cons_append, of_slashes run hend] at hopening

/-- The delimiters of a block comment alone have four code points. -/
theorem length_of_passed_blockComment {legal : Bool} (h : c.Started)
    (htext : c.text = ch :: ((t ++ ahead) ++ more))
    (hopening : Opening.of ch (t ++ ahead) = .blockComment legal)
    (hscan : Scanner.blockComment legal c = .ok lexeme c') (hpass : c.Passes (ch :: t) c') :
    3 ≤ t.length := by
  have hsees := sees_of ch (t ++ ahead)
  rw [hopening] at hsees
  obtain ⟨rfl, hstar⟩ := hsees
  obtain ⟨rest, hrest⟩ := List.head?_eq_some_iff.1 hstar
  rw [hrest] at htext
  obtain ⟨inner, behind, hbehind, hbody⟩ := Scanner.commentBody_of_blockComment h htext hscan
  have hall := htext.trans (congrArg (fun text => '/' :: '*' :: text) hbehind)
  obtain ⟨c₁, hscan', hpass'⟩ := Scanner.blockComment_eq_ok legal h hall hbody
  cases hscan.symm.trans hscan'
  obtain rfl := (List.cons.inj (hpass.unique hpass')).2
  simp

theorem of_passed_escapedName (h : c.Started) (htext : c.text = ch :: ((t ++ ahead) ++ more))
    (hopening : Opening.of ch (t ++ ahead) = .escapedName)
    (hscan : Scanner.escapedName c = .ok lexeme c') (hpass : c.Passes (ch :: t) c') :
    Opening.of ch t = .escapedName := by
  have htells := tells_of ch (t ++ ahead)
  rw [hopening] at htells
  obtain ⟨rfl, next, rest, hrest, hstart⟩ := htells
  rw [hrest] at htext
  obtain ⟨c₁, hscan', hpass'⟩ := Scanner.escapedName_eq_ok h htext
  cases hscan.symm.trans hscan'
  obtain rfl := (List.cons.inj (hpass.unique hpass')).2
  rw [Scanner.nameText, List.cons_append, List.cons_append, of_rHash] at hopening
  rw [Scanner.nameText, of_rHash]
  exact hopening

theorem of_passed_number (h : c.Started) (htext : c.text = ch :: ((t ++ ahead) ++ more))
    (hopening : Opening.of ch (t ++ ahead) = .number)
    (hscan : Scanner.decimalNumber c = .ok lexeme c') (hpass : c.Passes (ch :: t) c') :
    Opening.of ch t = .number := by
  obtain hdigit | ⟨rfl, hdigit⟩ := of_eq_number hopening
  · by_cases hzero : ch = '0' ∧ t ≠ []
    · obtain ⟨rfl, hne⟩ := hzero
      cases t with
      | nil => exact absurd rfl hne
      | cons next t => exact hopening
    · refine of_eq_number_of_isDigit hdigit fun hch => ?_
      exact Classical.byContradiction fun hne => hzero ⟨hch, hne⟩
  · cases t with
    | nil =>
      cases ahead with
      | nil => cases hdigit
      | cons digit ahead =>
        obtain ⟨passed, hpass', hlt⟩ := Scanner.passes_decimalNumber_of_dot h htext hdigit hscan
        rw [← hpass.unique hpass'] at hlt
        cases Nat.lt_irrefl 1 hlt
    | cons digit t => exact if_pos hdigit

theorem of_passed_basedNumber {base : Base} (h : c.Started)
    (htext : c.text = ch :: ((t ++ ahead) ++ more))
    (hopening : Opening.of ch (t ++ ahead) = .basedNumber base)
    (hscan : Scanner.basedNumber base c = .ok lexeme c') (hpass : c.Passes (ch :: t) c') :
    Opening.of ch t = .basedNumber base := by
  have hsees := sees_of ch (t ++ ahead)
  rw [hopening] at hsees
  obtain ⟨rfl, letter, hletter, -⟩ := hsees
  cases t with
  | nil =>
    obtain ⟨rest, hrest⟩ := List.head?_eq_some_iff.1 hletter
    rw [hrest] at htext
    obtain ⟨behind, hpass'⟩ := Scanner.passes_basedNumber h htext hscan
    cases hpass.unique hpass'
  | cons second t => exact hopening

/-- A short token has the same opening if nothing follows it. -/
theorem of_passed {opening : Opening} (h : c.Started)
    (htext : c.text = ch :: ((t ++ ahead) ++ more))
    (hshort : t.length < 3) (hopening : Opening.of ch (t ++ ahead) = opening)
    (hscan : opening.scanner c = .ok lexeme c') (hpass : c.Passes (ch :: t) c') :
    Opening.of ch t = opening := by
  have htells := tells_of ch (t ++ ahead)
  have hbegins := begins_of ch (t ++ ahead)
  have hbegins' : opening.Begins c.text := by
    rw [htext]
    exact (hopening ▸ hbegins).extend (List.cons_prefix_cons.2 ⟨rfl, List.prefix_append _ _⟩)
  rw [hopening] at htells hbegins
  cases opening with
  | lineComment doc => exact of_passed_lineComment h htext hopening hscan hpass
  | blockComment legal =>
    have hlong := length_of_passed_blockComment h htext hopening hscan hpass
    omega
  | string =>
    obtain rfl : '"' = ch := (List.cons_prefix_cons.1 hbegins).1
    apply of_eq_string
    intro rest hrest
    rw [hrest] at hopening
    cases hopening
  | tripleString =>
    have hstyle : Opening.tripleString.style? = some .tripleString := rfl
    rw [scanner_of_style? hstyle] at hscan
    obtain ⟨more, hmore⟩ := Scanner.passes_quoted h hbegins' hscan
    cases hpass.unique hmore
    rfl
  | character =>
    obtain rfl : '\'' = ch := (List.cons_prefix_cons.1 hbegins).1
    rfl
  | template =>
    obtain rfl : '\x60' = ch := (List.cons_prefix_cons.1 hbegins).1
    rfl
  | rawString =>
    obtain ⟨hashes, more, hmore⟩ := Scanner.passes_rawString h hbegins' hscan
    exact of_eq_rawString (hpass.unique hmore)
  | escapedName => exact of_passed_escapedName h htext hopening hscan hpass
  | number => exact of_passed_number h htext hopening hscan hpass
  | basedNumber base => exact of_passed_basedNumber h htext hopening hscan hpass
  | leadingZero => cases hscan
  | operator op =>
    obtain ⟨c₁, hscan', hpass'⟩ := Scanner.operator_eq_ok h hbegins'
    cases hscan.symm.trans hscan'
    have hword := hpass.unique hpass'
    cases op <;> cases hword <;> rfl
  | name =>
    obtain ⟨c₁, hscan', hpass'⟩ := Scanner.name_eq_ok h htext
    cases hscan.symm.trans hscan'
    have hrun : t = (t ++ ahead ++ more).takeWhile isIdentContinue :=
      (List.cons.inj (hpass.unique hpass')).2
    refine of_eq_name htells fun d hd => ?_
    rw [hrun] at hd
    exact List.all_eq_true.1 List.all_takeWhile d hd
  | unexpected problem =>
    obtain ⟨c₁, hscan', hpass'⟩ := Scanner.unexpected_eq_ok problem h htext
    cases hscan.symm.trans hscan'
    obtain rfl : t = [] := (List.cons.inj (hpass.unique hpass')).2
    exact of_eq_unexpected hopening

end Passed

end Opening

namespace Lexer

open Scanner (Beside SameLexeme)

variable {c c' d : Cursor} {ch : Char} {t : List Char} {lexeme : Lexeme}

/-- What is found in front of anything is found where nothing follows. -/
theorem scanAt_alone {i j : Nat} (h : c.Started) (h' : d.Started)
    (hindex : c.index + j = d.index + i) (hscan : scanAt c ch = .ok lexeme c')
    (hpass : c.Passes (ch :: t) c') (htext : d.text = ch :: t) :
    ∃ lexeme' d', scanAt d ch = .ok lexeme' d' ∧ SameLexeme i j lexeme lexeme' ∧
      d.Passes (ch :: t) d' := by
  have hahead := Cursor.passes_lookahead h 3
  have hahead' := Cursor.passes_lookahead h' 3
  have htext₁ : c.text = ch :: (t ++ c'.text) := hpass.text_eq
  have hnext : (c.lookahead 3).1 = t.take 3 ++ c'.text.take (3 - t.length) := by
    rw [c.lookahead_fst, h.upcoming_eq htext₁, List.take_append]
  have hnext' : (d.lookahead 3).1 = t.take 3 := by
    rw [d.lookahead_fst, h'.upcoming_eq htext]
  have hpass₁ : (c.lookahead 3).2.Passes (ch :: t) c' :=
    ⟨hpass.bytes_eq.trans hahead.bytes_eq.symm, hpass.started,
      by rw [hpass.index_eq, hahead.index_eq_of_nil], by rw [hahead.text_eq_of_nil, hpass.text_eq]⟩
  rw [scanAt, hnext] at hscan
  have hopening : Opening.of ch (t.take 3) =
      Opening.of ch (t.take 3 ++ c'.text.take (3 - t.length)) := by
    by_cases hshort : t.length < 3
    · rw [List.take_of_length_le (Nat.le_of_lt hshort)] at hscan ⊢
      have hbehind : (c.lookahead 3).2.text = ch :: ((t ++ c'.text.take (3 - t.length)) ++
          c'.text.drop (3 - t.length)) := by
        rw [hahead.text_eq_of_nil, htext₁, List.append_assoc, List.take_append_drop]
      exact Opening.of_passed hahead.started hbehind hshort rfl hscan hpass₁
    · rw [Nat.sub_eq_zero_of_le (Nat.le_of_not_lt hshort), List.take_zero, List.append_nil]
  rw [← hopening] at hscan
  have hbeside : Beside i j c'.text [] (ch :: t) (c.lookahead 3).2 (d.lookahead 3).2 := by
    refine ⟨.nil, hahead.started, hahead'.started, ?_, ?_, ?_⟩
    · rw [hahead.index_eq_of_nil, hahead'.index_eq_of_nil, hindex]
    · rw [hahead.text_eq_of_nil, hpass.text_eq]
    · rw [hahead'.text_eq_of_nil, htext, List.append_nil]
  have hagree := Scanner.agree_scanner hbeside fun _ _ _ => rfl
  rw [hscan] at hagree
  obtain ⟨lexeme', d', hscan', hsame, hbehind⟩ := hagree [] rfl
  have hfound : scanAt d ch = .ok lexeme' d' := by
    rw [scanAt, hnext']
    exact hscan'
  obtain ⟨⟨passed, -, hpass'⟩, -⟩ := scanAt_ok (h'.current_of_text_cons htext) hfound
  have hall : passed = ch :: t := by
    have hbehind' : d'.text = [] := hbehind.text_eq'
    have htext' := hpass'.text_eq
    rw [hbehind', List.append_nil, htext] at htext'
    exact htext'.symm
  exact ⟨lexeme', d', hfound, hsame, hall ▸ hpass'⟩

end Lexer

end Lexis
