import Lexis.Lexer.Digits
import Lexis.Proofs.Scanner.Outcome

/-!
# Numbers are recognised

Everything that is passed in a number can stand in a number (`NumberTo`), and its errors designate
places in that text. The last separator of a group is known to lie behind the cursor, which is where
the error of a trailing separator points.
-/

namespace Lexis

open CharClass

theorem isAlphanum_of_digitValue? {ch : Char} {d : Nat} (h : digitValue? ch = some d) :
    ch.isAlphanum = true := by
  unfold digitValue? at h
  split at h
  · rename_i hdigit
    exact Bool.or_eq_true_iff.2 (.inr hdigit)
  · split at h
    · rename_i hlower
      have hle : ch.val ≤ 'z'.val := Nat.le_trans hlower.2 (by decide)
      have hlower' : ch.isLower = true :=
        Bool.and_eq_true_iff.2 ⟨decide_eq_true hlower.1, decide_eq_true hle⟩
      exact Bool.or_eq_true_iff.2 (.inl (Bool.or_eq_true_iff.2 (.inr hlower')))
    · split at h
      · rename_i hupper
        have hle : ch.val ≤ 'Z'.val := Nat.le_trans hupper.2 (by decide)
        have hupper' : ch.isUpper = true := decide_eq_true ⟨hupper.1, hle⟩
        exact Bool.or_eq_true_iff.2 (.inl (Bool.or_eq_true_iff.2 (.inl hupper')))
      · cases h

theorem isNumberChar_of_digitValue? {ch : Char} {d : Nat} (h : digitValue? ch = some d) :
    isNumberChar ch = true := by
  simp [isNumberChar, isAlphanum_of_digitValue? h]

theorem isNumberChar_of_digitOf? {radix : Nat} {ch : Char} {d : Nat}
    (h : digitOf? radix ch = some d) : isNumberChar ch = true :=
  isNumberChar_of_digitValue? (Option.filter_eq_some_iff.1 h).1

theorem isNumberChar_of_ofLetter? {ch : Char} {base : Base} (h : Base.ofLetter? ch = some base) :
    isNumberChar ch = true := by
  have hcases : (ch = 'b' ∨ ch = 'B') ∨ (ch = 'o' ∨ ch = 'O') ∨ ch = 'x' ∨ ch = 'X' := by
    unfold Base.ofLetter? at h
    split at h
    · exact .inl ‹_›
    · split at h
      · exact .inr (.inl ‹_›)
      · split at h
        · exact .inr (.inr ‹_›)
        · cases h
  obtain (rfl | rfl) | (rfl | rfl) | rfl | rfl := hcases <;> rfl

theorem isAscii_of_isNumberChar {ch : Char} (h : isNumberChar ch = true) : isAscii ch = true := by
  simp only [isNumberChar, Bool.or_eq_true, beq_iff_eq] at h
  obtain (((h | rfl) | rfl) | rfl) | rfl := h
  · have hle : ch.val ≤ 122 := by
      rcases Bool.or_eq_true_iff.1 h with halpha | hdigit
      · rcases Bool.or_eq_true_iff.1 halpha with hupper | hlower
        · exact Nat.le_trans (of_decide_eq_true hupper).2 (by decide)
        · exact (of_decide_eq_true (Bool.and_eq_true_iff.1 hlower).2)
      · exact Nat.le_trans (of_decide_eq_true (Bool.and_eq_true_iff.1 hdigit).2) (by decide)
    exact decide_eq_true (Nat.lt_of_le_of_lt (UInt32.le_iff_toNat_le.1 hle) (by decide))
  all_goals decide

theorem utf8Size_of_isNumberChar {ch : Char} (h : isNumberChar ch = true) : ch.utf8Size = 1 :=
  Utf8.utf8Size_of_isAscii (isAscii_of_isNumberChar h)

namespace Scanner

variable {c₀ c c' : Cursor} {ch : Char}

/-- Between the cursors lies what may stand in a number. -/
def NumberTo (c₀ c : Cursor) : Prop :=
  ∃ before, c₀.Passes before c ∧ ∀ ch ∈ before, isNumberChar ch = true

theorem NumberTo.refl (h : c.Started) : NumberTo c c := ⟨[], .refl h, nofun⟩

theorem NumberTo.passes {passed : List Char} (h : NumberTo c₀ c) (hpass : c.Passes passed c')
    (hchars : ∀ ch ∈ passed, isNumberChar ch = true) : NumberTo c₀ c' := by
  obtain ⟨before, hbefore, hall⟩ := h
  refine ⟨_, hbefore.trans hpass, ?_⟩
  intro ch hmem
  rcases List.mem_append.1 hmem with hmem | hmem
  · exact hall ch hmem
  · exact hchars ch hmem

theorem NumberTo.advance (h : NumberTo c₀ c) (hcur : c.current = .scalar ch)
    (hch : isNumberChar ch = true) : NumberTo c₀ c.advance :=
  h.passes (Cursor.passes_advance hcur) (by simpa using hch)

theorem NumberTo.started (h : NumberTo c₀ c) : c.Started := by
  obtain ⟨before, hbefore, -⟩ := h
  exact hbefore.started

/-- An error that designates the text at the cursor. -/
theorem NumberTo.liesIn {kind : LexErrorKind} {start stop : Nat} {rest : List Char}
    (h : NumberTo c₀ c) (inside : List Char) (htext : c.text = inside ++ rest)
    (hspan : kind.designated start stop = ⟨c.index, c.index + Utf8.size inside⟩)
    (hdivides : ∀ before, (∀ ch ∈ before, isNumberChar ch = true) →
      kind.Divides before inside rest) :
    (LexError.between kind start stop).LiesIn c₀.index c₀.text := by
  obtain ⟨before, hbefore, hall⟩ := h
  refine ⟨before, inside, rest, ?_, ?_, hdivides before hall⟩
  · rw [hbefore.text_eq, htext, List.append_assoc]
  · rw [← hbefore.index_eq]
    exact hspan

/-- Digits have been passed, or an error lies among them. -/
def EndsNumber {α : Type} (c₀ : Cursor) : EStateM.Result LexError Cursor α → Prop
  | .ok _ c => NumberTo c₀ c
  | .error e _ => e.LiesIn c₀.index c₀.text

theorem endsNumber_digitsEnd {place : GroupPlace} (h : NumberTo c₀ c)
    (hplace : place = .afterSeparator → ∃ c₁, NumberTo c₀ c₁ ∧ c₁.Passes ['_'] c) :
    EndsNumber c₀ (digitsEnd place c) := by
  unfold digitsEnd
  split
  · rename_i hsep
    obtain ⟨c₁, hnumber, hlast⟩ := hplace hsep
    refine hnumber.liesIn ['_'] hlast.text_eq ?_ fun _ hall => hall
    rw [hlast.index_eq]
    rfl
  · exact h

theorem endsNumber_digitsFrom (radix : Nat) (place : GroupPlace) (h : NumberTo c₀ c)
    (hplace : place = .afterSeparator → ∃ c₁, NumberTo c₀ c₁ ∧ c₁.Passes ['_'] c) :
    EndsNumber c₀ (digitsFrom radix place c) := by
  fun_induction digitsFrom radix place c with
  | case1 c hcur =>
    exact h.liesIn ['_'] (Cursor.text_of_scalar hcur) rfl fun _ hall => hall
  | case2 c hcur =>
    exact h.liesIn ['_'] (Cursor.text_of_scalar hcur) rfl fun _ hall => hall
  | case3 c hcur hlt ih =>
    exact ih (h.advance hcur rfl) fun _ => ⟨c, h, Cursor.passes_advance hcur⟩
  | case4 place c ch hcur hlt hne d hd ds c' hrest ih =>
    rw [hrest] at ih
    apply ih (h.advance hcur (isNumberChar_of_digitOf? hd))
    intro hplace
    cases hplace
  | case5 place c ch hcur hlt hne d hd e c' hrest ih =>
    rw [hrest] at ih
    apply ih (h.advance hcur (isNumberChar_of_digitOf? hd))
    intro hplace
    cases hplace
  | case6 place c ch hcur hlt hne hd hbad =>
    obtain ⟨d, hvalue⟩ := Option.isSome_iff_exists.1 hbad.2
    have hsize := utf8Size_of_isNumberChar (isNumberChar_of_digitValue? hvalue)
    refine h.liesIn [ch] (Cursor.text_of_scalar hcur) ?_ fun _ hall => hall
    rw [Utf8.size_cons, hsize]
    rfl
  | case7 place c ch hcur hlt hne hd hgood => exact endsNumber_digitsEnd h hplace
  | case8 place c hnot => exact endsNumber_digitsEnd h hplace

/-! ## The parts of a number -/

def KeepsNumber {α : Type} (s : Scanner α) (c₀ c : Cursor) : Prop :=
  Ends s c (fun _ c' => NumberTo c₀ c') fun e => e.LiesIn c₀.index c₀.text

theorem keepsNumber_digits (radix : Nat) (h : NumberTo c₀ c) : KeepsNumber (digits radix) c₀ c := by
  have hends := endsNumber_digitsFrom radix .start h nofun
  unfold KeepsNumber Ends digits
  cases hresult : digitsFrom radix .start c with
  | ok ds c' =>
    rw [hresult] at hends
    exact hends
  | error e c' =>
    rw [hresult] at hends
    exact hends

theorem keepsNumber_whole (h : NumberTo c₀ c) : KeepsNumber whole c₀ c := by
  unfold KeepsNumber whole
  simp only [ends_bind, ends_current]
  split
  · exact keepsNumber_digits 10 h
  · exact h

theorem keepsNumber_fraction (h : NumberTo c₀ c) : KeepsNumber fraction c₀ c := by
  have hahead := h.passes (Cursor.passes_peek h.started 1) nofun
  unfold KeepsNumber fraction
  simp only [ends_bind, ends_current, ends_peek]
  split
  · rename_i hdot
    have hcur : (c.peek 1).2.current = .scalar '.' := by
      simp only [Bool.and_eq_true, CodePoint.is, beq_iff_eq] at hdot
      rw [Cursor.current_peek]
      exact hdot.1
    simp only [ends_bind, ends_skip, ends_pure]
    exact keepsNumber_digits 10 (hahead.advance hcur rfl)
  · exact hahead

/-- The width of the mark of an exponent, with the sign if there is one. -/
def markWidth (c : Cursor) : Nat := 1 + ((c.peek 1).1.is '+' || (c.peek 1).1.is '-').toNat

theorem take_markWidth (h : c.Started)
    (hletter : (c.current.is 'e' || c.current.is 'E') = true) :
    (∀ ch ∈ c.text.take (markWidth c), isNumberChar ch = true) ∧
      (c.text.take (markWidth c)).length = markWidth c := by
  obtain ⟨letter, hcur, hnumber⟩ : ∃ letter, c.current = .scalar letter ∧
      isNumberChar letter = true := by
    simp only [CodePoint.is, Bool.or_eq_true, beq_iff_eq] at hletter
    rcases hletter with hcur | hcur
    · exact ⟨'e', hcur, rfl⟩
    · exact ⟨'E', hcur, rfl⟩
  have htext := Cursor.text_of_scalar hcur
  cases hsigned : (c.peek 1).1.is '+' || (c.peek 1).1.is '-' with
  | false =>
    simp [markWidth, hsigned, htext, hnumber]
  | true =>
    obtain ⟨sign, hsign, hnumber'⟩ : ∃ sign, c.text[1]? = some sign ∧
        isNumberChar sign = true := by
      rw [h.peek_eq 1 (by decide)] at hsigned
      cases hsecond : c.text[1]? with
      | none => simp [hsecond, CodePoint.ofChar?, CodePoint.is] at hsigned
      | some sign =>
        simp only [hsecond, CodePoint.ofChar?, CodePoint.is, Bool.or_eq_true, beq_iff_eq,
          CodePoint.scalar.injEq] at hsigned
        rcases hsigned with rfl | rfl
        · exact ⟨'+', rfl, rfl⟩
        · exact ⟨'-', rfl, rfl⟩
    rw [htext, List.getElem?_cons_succ] at hsign
    cases hrest : c.upcoming with
    | nil => simp [hrest] at hsign
    | cons second rest =>
      obtain rfl : second = sign := by simpa [hrest] using hsign
      simp [markWidth, hsigned, htext, hrest, hnumber, hnumber']

theorem keepsNumber_exponent (h : NumberTo c₀ c) : KeepsNumber exponent c₀ c := by
  unfold KeepsNumber exponent
  simp only [ends_bind, ends_current]
  split
  · rename_i hletter
    simp only [ends_bind, ends_peek, ends_index]
    obtain ⟨hchars, hlength⟩ := take_markWidth h.started hletter
    change ∀ ch ∈ c.text.take (markWidth c), isNumberChar ch = true at hchars
    have hfirst := Cursor.passes_peek h.started 1
    have hahead := hfirst.trans (Cursor.passes_peek hfirst.started (markWidth c))
    have hmark := Cursor.passes_advanceBy hahead.started (markWidth c)
    rw [hahead.text_eq_of_nil] at hmark
    have hnumber := (h.passes hahead nofun).passes hmark hchars
    have hindex := hmark.index_eq
    rw [Utf8.size_eq_length fun ch hch => isAscii_of_isNumberChar (hchars ch hch), hlength] at hindex
    have hcur : ((c.peek 1).2.peek (markWidth c)).1 = CodePoint.ofChar?
        (((c.peek 1).2.peek (markWidth c)).2.advanceBy (markWidth c)).text[0]? := by
      rw [hfirst.started.peek_eq (markWidth c) (Cursor.one_add_toNat_le _),
        Cursor.text_advanceBy hahead.started, List.getElem?_drop, hahead.text_eq_of_nil,
        hfirst.text_eq_of_nil, Nat.add_zero]
    split
    · simp only [ends_bind, ends_skip, ends_pure]
      exact keepsNumber_digits 10 hnumber
    · split
      · rename_i hsep
        have hnext : (((c.peek 1).2.peek (markWidth c)).2.advanceBy (markWidth c)).current =
            .scalar '_' := by
          rw [hnumber.started.current_eq_head, ← hcur]
          exact eq_of_beq hsep
        refine hnumber.liesIn ['_'] (Cursor.text_of_scalar hnext) ?_ fun _ hall => hall
        rw [hindex, markWidth, ← Nat.add_assoc]
        rfl
      · split
        · refine hnumber.liesIn [] rfl ?_ fun _ hall => hall
          rw [hindex, markWidth, ← Nat.add_assoc]
          rfl
        · exact h.passes hahead nofun
  · exact h

/-! ## Whole numbers -/

theorem recognizes_numberLexeme (value : LiteralValue) (h : NumberTo c₀ c) :
    Ends (numberLexeme value) c
      (fun lexeme c' => (∃ passed, c₀.Passes passed c') ∧ lexeme.Fits c₀.index c'.index)
      fun e => e.LiesIn c₀.index c₀.text := by
  obtain ⟨before, hbefore, -⟩ := h
  unfold numberLexeme
  simp only [ends_bind, ends_current]
  split
  · rename_i hname
    obtain ⟨ch, hcur⟩ : ∃ ch, c.current = .scalar ch := by
      cases hcur : c.current with
      | scalar ch => exact ⟨ch, rfl⟩
      | _ => simp [hcur, CodePoint.toChar?] at hname
    have hfirst := Cursor.passes_advance hcur
    have hname := hfirst.trans (Cursor.passes_skipWhile isIdentContinue hfirst.started)
    simp only [ends_bind, ends_index, ends_skip, ends_move, ends_bytesFrom, ends_pure]
    refine ⟨⟨_, hbefore.trans hname⟩, ?_, rfl, ?_, ?_, Nat.le_refl _⟩
    · intro hkind
      cases hkind
    · exact hbefore.index_eq ▸ Nat.le_add_right _ _
    · have hpos := ch.utf8Size_pos
      have hindex := hname.index_eq
      rw [List.singleton_append, Utf8.size_cons] at hindex
      refine Nat.lt_of_lt_of_eq ?_ hindex.symm
      exact Nat.lt_add_of_pos_right (Nat.add_pos_left hpos _)
  · refine ends_pure.2 ⟨⟨_, hbefore⟩, ?_⟩
    apply Lexeme.fits_of_ne ?_ ?_ rfl
    · cases value <;> intro hkind <;> cases hkind
    · cases value <;> intro hkind <;> cases hkind

theorem recognizes_decimalNumber (h : c.Started) : Recognizes decimalNumber c := by
  unfold Recognizes decimalNumber
  simp only [ends_bind]
  apply (keepsNumber_whole (.refl h)).mono ?_ fun _ he => he
  intro whole c₁ hwhole
  apply (keepsNumber_fraction hwhole).mono ?_ fun _ he => he
  intro fraction? c₂ hfraction
  apply (keepsNumber_exponent hfraction).mono ?_ fun _ he => he
  intro exponent? c₃ hexponent
  exact recognizes_numberLexeme _ hexponent

theorem recognizes_basedNumber {base : Base} {letter : Char} {rest : List Char} (h : c.Started)
    (htext : c.text = '0' :: letter :: rest) (hletter : Base.ofLetter? letter = some base) :
    Recognizes (basedNumber base) c := by
  have hmark := Cursor.passes_advanceBy h 2
  have hnumber : NumberTo c (c.advanceBy 2) := by
    refine (NumberTo.refl h).passes hmark ?_
    rw [htext]
    simpa [show isNumberChar '0' = true from rfl] using isNumberChar_of_ofLetter? hletter
  unfold Recognizes basedNumber
  simp only [ends_bind, ends_skip, ends_index]
  apply (keepsNumber_digits base.radix hnumber).mono ?_ fun _ he => he
  intro digits c' hdigits
  split
  · refine hnumber.liesIn [] rfl rfl fun _ hall => hall
  · exact recognizes_numberLexeme _ hdigits

theorem recognizes_leadingZero {second : Char} {rest : List Char} (h : c.Started)
    (htext : c.text = '0' :: second :: rest) (hsecond : isNumberChar second = true) :
    Recognizes leadingZero c := by
  unfold Recognizes leadingZero
  simp only [ends_bind, ends_get]
  have hcur := h.current_of_text_cons htext
  have hnext : c.nextOffset = c.index + 1 := by
    rw [Cursor.nextOffset, hcur]
    rfl
  have hwidth : Utf8.size [second] = 1 := utf8Size_of_isNumberChar hsecond
  refine ⟨['0'], [second], rest, htext, ?_, ?_⟩
  · rw [hnext, hwidth]
    rfl
  · intro ch hmem
    rw [List.mem_singleton.1 hmem]
    rfl

end Scanner

end Lexis
