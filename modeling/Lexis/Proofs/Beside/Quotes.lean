import Mathlib.Data.List.Find
import Lexis.Proofs.Beside.Basic
import Lexis.Proofs.Scanner.Quotes

/-!
# Quoted literals agree

All closers of a style are equally long. A closer that begins within what has been passed therefore
lies in front of what is behind the body and its closer, and a body is crossed up to its closer
whatever is behind that.
-/

namespace Lexis

open CharClass

namespace QuoteStyle

variable {style : QuoteStyle} {passed closer rest rest' text : List Char} {ending : Ending}

theorem length_closer {first second : List Char × Ending} (h : first ∈ style.closers)
    (h' : second ∈ style.closers) : first.1.length = second.1.length := by
  cases style with
  | template =>
    simp only [closers, List.mem_cons, List.not_mem_nil, or_false] at h h'
    obtain rfl | rfl := h <;> obtain rfl | rfl := h' <;> rfl
  | _ =>
    simp only [closers, List.mem_singleton] at h h'
    rw [h, h']

theorem closer_ne_nil (h : (closer, ending) ∈ style.closers) : closer ≠ [] := by
  cases style with
  | template =>
    simp only [closers, List.mem_cons, List.not_mem_nil, or_false, Prod.mk.injEq] at h
    obtain ⟨rfl, -⟩ | ⟨rfl, -⟩ := h <;> exact List.cons_ne_nil _ _
  | _ =>
    simp only [closers, List.mem_singleton, Prod.mk.injEq] at h
    rw [h.1]
    exact List.cons_ne_nil _ _

/-- Whether a closer comes next depends on as much of the text as a closer is long. -/
theorem closing?_append (hlen : ∀ closer ∈ style.closers, closer.1.length ≤ text.length) :
    style.closing? (text ++ rest) = style.closing? text := by
  refine List.find?_congr fun closer hcloser => ?_
  rw [Bool.eq_iff_iff, List.isPrefixOf_iff_prefix, List.isPrefixOf_iff_prefix]
  constructor
  · intro hprefix
    exact List.prefix_of_prefix_length_le hprefix (List.prefix_append text rest)
      (hlen closer hcloser)
  · intro hprefix
    exact hprefix.trans (List.prefix_append text rest)

theorem closing?_closer (h : style.closing? (closer ++ rest) = some (closer, ending)) :
    style.closing? (closer ++ rest') = some (closer, ending) := by
  have hlen : ∀ other ∈ style.closers, other.1.length ≤ closer.length := fun other hother =>
    Nat.le_of_eq (length_closer hother (prefix_of_closing? h).1)
  rw [closing?_append hlen] at h ⊢
  exact h

theorem head?_append_eq (hne : text ≠ []) : (text ++ rest').head? = (text ++ rest).head? := by
  cases text with
  | nil => exact absurd rfl hne
  | cons ch text => rfl

theorem IsUnit.behind (h : style.IsUnit text rest) (hne : rest ≠ [])
    (hhead : rest'.head? = rest.head?) : style.IsUnit text rest' := by
  cases h with
  | single ch _ hplain => exact .single ch _ hplain
  | escape ch _ hescapes hnot => exact .escape ch _ hescapes (hhead ▸ hnot)
  | lineBreak _ hescapes => exact .lineBreak _ hescapes
  | dangling => exact absurd rfl hne

/-- What is behind the closer has no part in what is crossed in front of it. -/
theorem Crosses.behind (hcloser : style.closing? (closer ++ rest) = some (closer, ending))
    (h : style.Crosses passed (closer ++ rest)) : style.Crosses passed (closer ++ rest') := by
  have hmem := (prefix_of_closing? hcloser).1
  have hne := closer_ne_nil hmem
  generalize hbehind : closer ++ rest = behind at h
  induction h with
  | nil => exact .nil _
  | @cons unit passed _ hunit hlive hrest ih =>
    subst hbehind
    have hfirst : passed ++ closer ≠ [] := List.append_ne_nil_of_right_ne_nil passed hne
    have hall : unit ++ (passed ++ closer) ≠ [] := List.append_ne_nil_of_right_ne_nil unit hfirst
    have hlen : ∀ other ∈ style.closers, other.1.length ≤ (unit ++ (passed ++ closer)).length := by
      intro other hother
      rw [length_closer hother hmem, List.length_append, List.length_append]
      exact Nat.le_trans (Nat.le_add_left _ _) (Nat.le_add_left _ _)
    rw [← List.append_assoc passed] at hunit hlive
    rw [← List.append_assoc unit] at hlive
    refine .cons ?_ ?_ (ih rfl)
    · rw [← List.append_assoc]
      exact hunit.behind (List.append_ne_nil_of_left_ne_nil hfirst _) (head?_append_eq hfirst)
    · rw [← List.append_assoc passed, ← List.append_assoc unit]
      refine ⟨?_, ?_⟩
      · rw [breaksAt, head?_append_eq hall]
        exact hlive.1
      · rw [closing?_append hlen, ← closing?_append hlen]
        exact hlive.2

end QuoteStyle

namespace Scanner

variable {i j start start' : Nat} {x y u : List Char} {c d : Cursor} {style : QuoteStyle}

theorem agree_quotedBody (style : QuoteStyle) (h : Beside i j x y u c d)
    (hstart : start + j = start' + i) :
    Agree i j x y (fun a b => a.1.ending = b.1.ending ∧ a.2 = b.2) (quotedBody style start c)
      (quotedBody style start' d) := by
  have hends := ends_quotedBody style start h.started
  unfold Ends at hends
  cases hscan : quotedBody style start c with
  | ok found c' =>
    rw [hscan] at hends
    obtain ⟨passed, closer, hpass, hcrosses, hcloser, -, hvalue⟩ := hends
    refine .of_passes h hpass fun more hu _ => ?_
    have htext : d.text = passed ++ (closer ++ (more ++ y)) := by
      rw [h.text_eq', hu]
      simp only [List.append_assoc]
    obtain ⟨found', d', hscan', hpass', hending⟩ := quotedBody_of_crosses start' h.started' htext
      (hcrosses.behind hcloser) (QuoteStyle.closing?_closer hcloser)
    exact ⟨_, d', hscan', ⟨hending.symm, hvalue⟩, hpass'⟩
  | error e c' =>
    rw [hscan] at hends
    obtain ⟨passed, c₁, hpass, hcrosses, hbreaks, he⟩ := hends
    intro hx hy
    have htext := h.text_eq_of_nil hx hy
    have hends' := ends_quotedBody style start' h.started'
    unfold Ends at hends'
    cases hscan' : quotedBody style start' d with
    | ok found d' =>
      rw [hscan'] at hends'
      obtain ⟨passed', closer, hpass', hcrosses', hcloser, -, -⟩ := hends'
      -- Where a body is broken off there is no closer.
      have hsame : passed ++ c₁.text = passed' ++ (closer ++ d'.text) := by
        rw [← hpass.text_eq, ← htext, hpass'.text_eq, List.append_assoc]
      obtain ⟨-, hrest⟩ := hcrosses.unique hcrosses' hsame
        (QuoteStyle.not_live_of_breaksAt hbreaks) (QuoteStyle.not_live_of_closing? hcloser)
      rw [← hrest, QuoteStyle.closing?_of_breaksAt hbreaks] at hcloser
      cases hcloser
    | error e' d' =>
      rw [hscan'] at hends'
      obtain ⟨passed', d₁, hpass', hcrosses', hbreaks', he'⟩ := hends'
      have hsame : passed ++ c₁.text = passed' ++ d₁.text := by
        rw [← hpass.text_eq, ← htext, hpass'.text_eq]
      obtain ⟨rfl, -⟩ := hcrosses.unique hcrosses' hsame
        (QuoteStyle.not_live_of_breaksAt hbreaks) (QuoteStyle.not_live_of_breaksAt hbreaks')
      refine ⟨e', d', rfl, ?_⟩
      rw [he, he', LexError.shift_between, LexError.shift_between, hstart, hpass.index_eq,
        hpass'.index_eq, Nat.add_right_comm, h.index_eq, Nat.add_right_comm]

theorem sameLexeme_quotedLexeme (i j : Nat) (kind : TokenKind) (flags : TokenFlags)
    (text? : Option String) :
    SameLexeme i j (quotedLexeme kind flags text?) (quotedLexeme kind flags text?) := by
  apply sameLexeme_of_plain
  · exact problem?_quotedLexeme ..
  · unfold quotedLexeme
    split <;> rfl

theorem agree_quoted (kinds : Ending → TokenKind) (flags : TokenFlags)
    (h : Beside i j x y (style.opening ++ u) c d) :
    Agree i j x y (SameLexeme i j) (quoted style style.opening.length kinds flags c)
      (quoted style style.opening.length kinds flags d) := by
  have hbody := agree_quotedBody style (h.advanceBy style.opening) h.index_eq
  refine hbody.map (f := fun found => quotedLexeme (kinds found.1.ending) flags found.2)
    (g := fun found => quotedLexeme (kinds found.1.ending) flags found.2) ?_
  rintro a b ⟨hending, htext⟩
  rw [hending, htext]
  exact sameLexeme_quotedLexeme i j _ _ _

theorem agree_templateContinuation (flags : TokenFlags) (h : Beside i j x y u c d)
    (hstart : start + j = start' + i) :
    Agree i j x y (SameLexeme i j) (templateContinuation start flags c)
      (templateContinuation start' flags d) := by
  have hbody := agree_quotedBody .template h hstart
  refine hbody.map (f := fun found => quotedLexeme (continuationKind found.1.ending) flags found.2)
    (g := fun found => quotedLexeme (continuationKind found.1.ending) flags found.2) ?_
  rintro a b ⟨hending, htext⟩
  rw [hending, htext]
  exact sameLexeme_quotedLexeme i j _ _ _

/-! ## Raw strings -/

theorem countHashes_fst_eq (h : c.Started) :
    (countHashes c).1 = (c.text.takeWhile (· == '#')).length := by
  fun_induction countHashes c with
  | case1 c count c' hcount hcur hlt ih =>
    have hsign := Cursor.passes_advance hcur
    have hrest := ih hsign.started
    rw [hcount] at hrest
    rw [hsign.text_eq, List.singleton_append, List.takeWhile_cons_of_pos rfl, List.length_cons,
      ← hrest]
  | case2 c ch hcur hlt hne =>
    rw [Cursor.text_of_scalar hcur, List.takeWhile_cons_of_neg (by simpa using hne)]
    rfl
  | case3 c hnot =>
    rw [h.text_of_not_scalar hnot]
    rfl

/-- A raw string behind its number signs. -/
theorem rawString_eq (c : Cursor) : rawString c =
    if (countHashes (c.advanceBy 1)).2.current.is '"' then
      (quotedBody (.raw (countHashes (c.advanceBy 1)).1) c.index >>= fun found =>
        pure (quotedLexeme .stringLiteral { raw := true } found.2))
        ((countHashes (c.advanceBy 1)).2.advanceBy 1)
    else .error (.between .invalidRawStringStart c.index (countHashes (c.advanceBy 1)).2.index)
      (countHashes (c.advanceBy 1)).2 := by
  have hscan : rawString c =
      (if (countHashes (c.advanceBy 1)).2.current.is '"' then do
          skip 1
          let found ← quotedBody (.raw (countHashes (c.advanceBy 1)).1) c.index
          return quotedLexeme .stringLiteral { raw := true } found.2
        else do fail (.between .invalidRawStringStart c.index (← index)) : Scanner Lexeme)
        (countHashes (c.advanceBy 1)).2 := rfl
  rw [hscan]
  split <;> rfl

theorem passing_quotedBody (style : QuoteStyle) (start : Nat) :
    Passing (quotedBody style start) := by
  intro c found c' hstart h
  obtain ⟨passed, closer, hpass, -⟩ := (ends_quotedBody style start hstart).of_ok h
  exact ⟨_, hpass⟩

/-- A raw string opens alike at both places. -/
theorem beside_rawOpening {more : List Char} (h : Beside i j x y ('r' :: u) c d)
    (hquote : (countHashes (c.advanceBy 1)).2.current = .scalar '"')
    (hmore : ((countHashes (c.advanceBy 1)).2.advanceBy 1).text = more ++ x) :
    (countHashes (d.advanceBy 1)).1 = (countHashes (c.advanceBy 1)).1 ∧
      (countHashes (d.advanceBy 1)).2.current = .scalar '"' ∧
      Beside i j x y more ((countHashes (c.advanceBy 1)).2.advanceBy 1)
        ((countHashes (d.advanceBy 1)).2.advanceBy 1) := by
  have hmark : c.Passes ['r'] (c.advanceBy 1) :=
    Cursor.passes_advanceBy_length h.started ⟨_, h.text_eq.symm⟩
  have hopening := passes_rawOpening h.started ⟨_, h.text_eq.symm⟩ hquote
  have hu := h.eq_append hopening hmore
  generalize hn : (countHashes (c.advanceBy 1)).1 = n at hopening hu
  have hmark' : d.Passes ['r'] (d.advanceBy 1) :=
    Cursor.passes_advanceBy_length h.started' ⟨_, h.text_eq'.symm⟩
  have htext : d.text = ['r'] ++ (List.replicate n '#' ++ '"' :: (more ++ y)) := by
    rw [h.text_eq', hu]
    simp [QuoteStyle.opening]
  have hsigns := hmark'.text_eq_of_append htext
  have hcount := countHashes_fst hmark'.started hsigns
  have hrun := passes_countHashes hmark'.started
  rw [hcount] at hrun
  have hquote' := hrun.started.current_of_text_cons (hrun.text_eq_of_append hsigns)
  have hopening' := passes_rawOpening h.started' ⟨_, h.text_eq'.symm⟩ hquote'
  rw [hcount] at hopening'
  exact ⟨hcount, hquote', (hu ▸ h).passes hopening hopening'⟩

theorem agree_rawString (h : Beside i j x y ('r' :: u) c d) :
    Agree i j x y (SameLexeme i j) (rawString c) (rawString d) := by
  have hbehind : Beside i j x y u (c.advanceBy 1) (d.advanceBy 1) := h.advanceBy ['r']
  have hsigns := passes_countHashes hbehind.started
  rw [rawString_eq]
  split
  · rename_i his
    have hquote := eq_of_beq his
    have hbody : Passing (quotedBody (.raw (countHashes (c.advanceBy 1)).1) c.index >>=
        fun found => pure (quotedLexeme .stringLiteral { raw := true } found.2)) :=
      (passing_quotedBody _ _).bind fun found => passing_pure _
    have hopening := passes_rawOpening h.started ⟨_, h.text_eq.symm⟩ hquote
    refine .of_forall (fun lexeme c' hscan => hbody _ lexeme c' hopening.started hscan) ?_
    intro more hmore
    obtain ⟨hcount, hquote', hbeside⟩ := beside_rawOpening h hquote hmore
    have his' : (countHashes (d.advanceBy 1)).2.current.is '"' = true := beq_iff_eq.2 hquote'
    rw [rawString_eq, if_pos his', hcount]
    refine (agree_quotedBody _ hbeside h.index_eq).map ?_
    rintro a b ⟨-, htext⟩
    rw [htext]
    exact sameLexeme_quotedLexeme i j _ _ _
  · rename_i hnot
    intro hx hy
    have htext := hbehind.text_eq_of_nil hx hy
    have hcount : (countHashes (d.advanceBy 1)).1 = (countHashes (c.advanceBy 1)).1 := by
      rw [countHashes_fst_eq hbehind.started, countHashes_fst_eq hbehind.started', htext]
    have hsigns' := passes_countHashes hbehind.started'
    rw [hcount] at hsigns'
    have hrest := hsigns'.text_eq_of_append (htext.trans hsigns.text_eq)
    rw [rawString_eq, if_neg]
    · refine ⟨_, _, rfl, ?_⟩
      rw [LexError.shift_between, LexError.shift_between, hsigns.index_eq, hsigns'.index_eq,
        h.index_eq, Nat.add_right_comm, hbehind.index_eq, Nat.add_right_comm]
    · rwa [hsigns'.started.current_eq_head, hrest, ← hsigns.started.current_eq_head]

end Scanner

end Lexis
