import Lexis.Proofs.Beside.Openings
import Lexis.Proofs.Lexer.Reached

/-!
# Operators are as long as they can be

An operator is the longest one that its place begins with, except that a question mark stands alone
where a dot and a digit follow (`Lexer.Reached.operator_longest`). No number and no comment begins
at an operator.
-/

namespace Lexis

namespace Operator

variable {text : List Char} {op op' : Operator}

theorem spelling_length_pos (op : Operator) : 0 < op.spelling.length := by
  cases op <;> decide

theorem spelling_length_le (op : Operator) : op.spelling.length ≤ 3 := by
  cases op <;> decide

/-- A question mark with a fraction behind it, to which the dot belongs. -/
def AsksFraction (text : List Char) : Prop :=
  ['?', '.'] <+: text ∧ text[2]?.any Char.isDigit = true

instance (text : List Char) : Decidable (AsksFraction text) := inferInstanceAs (Decidable (_ ∧ _))

theorem asksFraction_cons_iff {rest : List Char} :
    AsksFraction ('?' :: '.' :: rest) ↔ rest.head?.any Char.isDigit = true := by
  rw [AsksFraction, List.head?_eq_getElem?]
  exact and_iff_right ⟨rest, rfl⟩

/-- Three code points tell. -/
theorem asksFraction_take_iff : AsksFraction (text.take 4) ↔ AsksFraction text := by
  simp [AsksFraction, List.prefix_take_iff]

theorem recognize?_of_asksFraction (h : AsksFraction text) :
    recognize? text = some .question := by
  obtain ⟨rest, rfl⟩ := h.1
  exact if_pos (asksFraction_cons_iff.1 h)

theorem recognize?_of_not_asksFraction {rest : List Char}
    (h : ¬ AsksFraction ('?' :: '.' :: rest)) :
    recognize? ('?' :: '.' :: rest) = some .questionDot :=
  if_neg (mt asksFraction_cons_iff.2 h)

/-- No operator that the text begins with is longer than the one that is recognised. -/
theorem spelling_length_le_of_recognize? (hfound : recognize? text = some op)
    (hno : ¬ AsksFraction text) (h : op'.spelling.toList <+: text) :
    op'.spelling.length ≤ op.spelling.length := by
  obtain ⟨rest, rfl⟩ := h
  cases op' with
  | dotDot =>
    -- A third dot may follow.
    by_cases hdot : ['.'] <+: rest
    · obtain ⟨more, rfl⟩ := hdot
      cases hfound
      decide
    · have htwo : recognize? ('.' :: '.' :: rest) = some .dotDot := by
        rw [recognize?]
        exact fun more hmore => hdot ⟨more, hmore.symm⟩
      cases htwo.symm.trans hfound
      exact Nat.le_refl _
  | questionDot =>
    cases (recognize?_of_not_asksFraction hno).symm.trans hfound
    exact Nat.le_refl _
  | ampersandAmpersand | asteriskAsterisk | barBar | dotDotDot | equalsEquals | fatArrow | notEquals
  | greaterEquals | lessEquals | arrow | questionQuestion | tildeSlash =>
    cases hfound
    exact Nat.le_refl _
  | _ => exact op.spelling_length_pos

end Operator

namespace Opening

/-- What an operator tells of what is ahead: it is recognised there, and neither a fraction nor a
comment begins with it. -/
def Limits (ch : Char) (ahead : List Char) : Opening → Prop
  | .operator op => Operator.recognize? (ch :: ahead) = some op ∧
    (ch = '.' → ahead.head?.any Char.isDigit = false) ∧
    (ch = '/' → ahead.head? ≠ some '/' ∧ ahead.head? ≠ some '*')
  | _ => True

theorem limits_of (ch : Char) (ahead : List Char) : (Opening.of ch ahead).Limits ch ahead := by
  have hfound := found_of ch ahead
  generalize Opening.of ch ahead = opening at hfound
  cases hfound with
  | operator hspelled hdot hslash => exact ⟨hspelled, hdot, hslash⟩
  | _ => trivial

end Opening

namespace Lexer

variable {source : Source} {config : LexerConfig} {l : Lexer} {t : Token} {op : Operator}

/-- An operator has been recognised in the text at its offset. -/
theorem Origin.exists_opening_eq_operator (h : Origin source t) (hkind : t.kind = .operator op) :
    ∃ ch rest, Utf8.textFrom source.contents t.offset = ch :: rest ∧
      Opening.of ch (rest.take 3) = .operator op := by
  obtain ⟨c, c', ch, lexeme, newline, hat, hcur, hscan, rfl⟩ := h.exists_scan (by simp [hkind])
  have hopening := opening_of_operator hscan hkind
  rw [Cursor.lookahead_fst] at hopening
  exact ⟨ch, c.upcoming, hat.text_eq.symm.trans (Cursor.text_of_scalar hcur), hopening⟩

/-- An operator that a caller is handed is spelled as its kind is shown, and no operator that the
source begins with there is longer; but a question mark stands alone in front of a fraction. No
operator of dots begins where a fraction does, and a slash does not open a comment. -/
theorem Reached.operator_longest (h : Reached source config l) (hnext : l.next.1 = .ok t)
    (hkind : t.kind = .operator op) :
    t.kind.displayName = "`" ++ t.text source.contents ++ "`" ∧
      t.text source.contents = op.spelling ∧
      op.spelling.toList <+: Utf8.textFrom source.contents t.offset ∧
      (if Operator.AsksFraction (Utf8.textFrom source.contents t.offset) then op = .question
        else ∀ op' : Operator, op'.spelling.toList <+: Utf8.textFrom source.contents t.offset →
          op'.spelling.length ≤ op.spelling.length) ∧
      (op ∈ [Operator.dot, .dotDot, .dotDotDot] →
        (Utf8.textFrom source.contents t.offset)[1]?.any Char.isDigit = false) ∧
      (op = .slash → (Utf8.textFrom source.contents t.offset)[1]? ≠ some '/' ∧
        (Utf8.textFrom source.contents t.offset)[1]? ≠ some '*') := by
  have horigin := h.origin hnext
  have hspells := horigin.spells_operator hkind
  have htext : t.text source.contents = op.spelling := by
    rw [Token.text_of_spells hspells, String.ofList_toList]
  obtain ⟨ch, rest, hplace, hopening⟩ := horigin.exists_opening_eq_operator hkind
  have hlimits := Opening.limits_of ch (rest.take 3)
  rw [hopening] at hlimits
  obtain ⟨hfound, hdot, hslash⟩ := hlimits
  have hspelled : op.spelling.toList <+: ch :: rest := ⟨_, hplace ▸ hspells.textFrom_eq.symm⟩
  have hahead : ch :: rest.take 3 = (ch :: rest).take 4 := rfl
  have hnext : (rest.take 3).head? = (ch :: rest)[1]? := by
    rw [List.head?_take, List.getElem?_cons_succ, List.head?_eq_getElem?]
    rfl
  rw [hahead] at hfound
  rw [hnext] at hdot hslash
  rw [hkind, htext, hplace]
  refine ⟨rfl, rfl, hspelled, ?_, ?_, ?_⟩
  · split
    · rename_i hasks
      have hquestion := Operator.recognize?_of_asksFraction (Operator.asksFraction_take_iff.2 hasks)
      exact Option.some.inj (hfound.symm.trans hquestion)
    · rename_i hno
      intro op' hop'
      refine Operator.spelling_length_le_of_recognize? hfound
        (mt Operator.asksFraction_take_iff.1 hno) (List.prefix_take_iff.2 ⟨hop', ?_⟩)
      rw [String.length_toList]
      exact Nat.le_succ_of_le op'.spelling_length_le
  · intro hop
    simp only [List.mem_cons, List.not_mem_nil, or_false] at hop
    refine hdot ?_
    obtain rfl | rfl | rfl := hop
    all_goals exact (List.cons_prefix_cons.1 hspelled).1.symm
  · rintro rfl
    exact hslash (List.cons_prefix_cons.1 hspelled).1.symm

/-- Two operators side by side. -/
def compared : Source := ⟨"compared", "b>==c".toUTF8, 0, by decide⟩

theorem operator_longest_compared :
    ∃ t, ((Lexer.ofSource compared {}).meet .next).2.next.1 = .ok t ∧
      t.kind = .operator .greaterEquals ∧ t.text compared.contents = ">=" ∧
      ∀ op : Operator, op.spelling.toList <+: Utf8.textFrom compared.contents t.offset →
        op.spelling.length ≤ 2 := by
  have hnext : ((Lexer.ofSource compared {}).meet .next).2.next.1 =
      .ok { kind := .operator .greaterEquals, offset := 1, len := 2 } := by
    decide +kernel
  have hplain : ¬ Operator.AsksFraction (Utf8.textFrom compared.contents 1) := by decide +kernel
  obtain ⟨-, htext, -, hlongest, -⟩ :=
    Reached.operator_longest (.meet .fresh .next) hnext rfl
  rw [if_neg hplain] at hlongest
  exact ⟨_, hnext, rfl, htext, hlongest⟩

end Lexer

end Lexis
