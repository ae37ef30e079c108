import Lexis.Lexer.Digits
import Lexis.Proofs.Number.Grammar

/-!
# Decimals are converted

The conversion of decimal text reads the parts of an unsigned decimal one after another, and comes
to the number that the numeral with the same digits denotes (`ofText?_eq`).
-/

namespace Lexis

open CharClass

theorem IsDigits.digitsIn_ne_nil {text : List Char} (h : IsDigits text) :
    digitsIn 10 text ≠ [] := by
  obtain ⟨hne, hdigits⟩ := h
  cases text with
  | nil => exact absurd rfl hne
  | cons ch text =>
    have hfirst := Scanner.isSome_digitOf?_ten (hdigits ch List.mem_cons_self)
    obtain ⟨d, hd⟩ := Option.isSome_iff_exists.1 hfirst
    rw [digitsIn_cons hd]
    exact List.cons_ne_nil _ _

namespace Binary64

variable {text rest : List Char} {fraction? : Option (List Nat)} {exponent? : Option Exponent}

theorem leadingDigits_append (h : IsDigits text) (hrest : ∀ ch ∈ rest.head?, ch.isDigit = false) :
    leadingDigits (text ++ rest) = (digitsIn 10 text, rest) := by
  have hnone : rest.takeWhile Char.isDigit = [] ∧ rest.dropWhile Char.isDigit = rest := by
    cases rest with
    | nil => exact ⟨rfl, rfl⟩
    | cons ch rest =>
      have hnot : ¬ ch.isDigit = true := ne_true_of_eq_false (hrest ch rfl)
      exact ⟨List.takeWhile_cons_of_neg hnot, List.dropWhile_cons_of_neg hnot⟩
  rw [leadingDigits, List.takeWhile_append_of_pos h.2, List.dropWhile_append_of_pos h.2, hnone.1,
    hnone.2, List.append_nil]
  rfl

theorem leadingFraction_append (hfraction : FractionText IsDigits fraction? text)
    (hexponent : ExponentText IsDigits exponent? rest) :
    leadingFraction (text ++ rest) = (fraction?.getD [], rest) := by
  cases hfraction with
  | present hdigits => exact leadingDigits_append hdigits (hexponent.forall_head rfl rfl)
  | absent =>
    have hnot := hexponent.forall_head (p := (· ≠ '.')) (by decide) (by decide)
    rw [List.nil_append]
    unfold leadingFraction
    split
    · exact absurd rfl (hnot '.' rfl)
    · rfl

theorem exponentOfText?_eq (h : ExponentText IsDigits exponent? text) :
    exponentOfText? text = some ((exponent?.map Exponent.toInt).getD 0) := by
  have hdigits : ∀ {text}, IsDigits text → leadingDigits text = (digitsIn 10 text, []) := by
    intro text h
    have hall : leadingDigits (text ++ []) = (digitsIn 10 text, []) := leadingDigits_append h nofun
    rwa [List.append_nil] at hall
  cases h with
  | absent => rfl
  | @plain letter text hletter hgroup =>
    have hsign : leadingSign text = (false, text) := by
      have hfirst := hgroup.2
      unfold leadingSign
      split
      · exact absurd (hfirst _ List.mem_cons_self) (by decide)
      · exact absurd (hfirst _ List.mem_cons_self) (by decide)
      · rfl
    simp only [exponentOfText?, hsign, hdigits hgroup]
    rw [if_pos ⟨hletter, hgroup.digitsIn_ne_nil, trivial⟩]
    rfl
  | @signed letter sign text hletter hsign hgroup =>
    have hsigned : leadingSign (sign :: text) = (sign == '-', text) := by
      obtain rfl | rfl := hsign <;> rfl
    simp only [exponentOfText?, hsigned, hdigits hgroup]
    rw [if_pos ⟨hletter, hgroup.digitsIn_ne_nil, trivial⟩]
    rfl

/-- The bits of the number that the parts of a decimal make up. -/
def ofParts (whole : List Nat) (fraction? : Option (List Nat)) (exponent? : Option Exponent) :
    UInt64 :=
  ofDecimal (whole ++ fraction?.getD [])
    ((exponent?.map Exponent.toInt).getD 0 - (fraction?.getD []).length)

theorem ofText?_eq {whole : List Nat}
    (h : (Numeral.decimal whole fraction? exponent?).DecimalText text) :
    ofText? text = some (ofParts whole fraction? exponent?) := by
  cases h with
  | decimal hwhole hfraction hexponent =>
    have hsome : ∀ more, ¬ digitsIn 10 _ ++ more = [] := fun more hnil =>
      hwhole.digitsIn_ne_nil (List.append_eq_nil_iff.1 hnil).1
    simp only [ofText?, leadingDigits_append hwhole (hfraction.forall_head hexponent rfl rfl rfl),
      leadingFraction_append hfraction hexponent, exponentOfText?_eq hexponent]
    rw [if_neg (hsome _)]
    rfl
  | @fraction fraction exponent exponent? hfraction hexponent =>
    have hnone : leadingDigits ('.' :: (fraction ++ exponent)) =
        ([], '.' :: (fraction ++ exponent)) := rfl
    have hdigits := leadingFraction_append (.present hfraction) hexponent
    rw [List.cons_append] at hdigits
    simp only [ofText?, hnone, hdigits, exponentOfText?_eq hexponent, Option.getD_some]
    rw [List.nil_append, if_neg hfraction.digitsIn_ne_nil]
    rfl

theorem isSome_ofText? (h : IsDecimal text) : (ofText? text).isSome := by
  obtain ⟨n, hn⟩ := h
  cases n with
  | based => cases hn
  | decimal whole fraction? exponent? => rw [ofText?_eq hn, Option.isSome_some]

example : ofText? ['.', '2', '5', 'e', '1'] = some 0x4004000000000000 := by decide +kernel

end Binary64

/-- A decimal that is a floating-point number has the value of its parts. -/
theorem Numeral.value_of_isFloat {whole : List Nat} {fraction? : Option (List Nat)}
    {exponent? : Option Exponent} (h : (decimal whole fraction? exponent?).isFloat = true) :
    (decimal whole fraction? exponent?).value =
      .float (Binary64.ofParts whole fraction? exponent?) := by
  cases fraction? with
  | some fraction => cases exponent? <;> rfl
  | none =>
    cases exponent? with
    | some e => rfl
    | none =>
      have hmany : exactDigits ≤ whole.length := by simpa [isFloat] using h
      rw [value, if_pos hmany, Binary64.ofParts, Option.getD_none, List.append_nil]
      rfl

end Lexis
