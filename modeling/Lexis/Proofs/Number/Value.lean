import Mathlib.Data.Nat.Digits.Lemmas
import Lexis.Lexer.Digits
import Lexis.Proofs.Number.Grammar

/-!
# Values of written numerals

The integer that digits make up is computed exactly or not at all: with a marker an intermediate
result overflows exactly if the integer does (`integerOfDigits?_eq`), and without one there are too
few digits for an overflow (`toNat_wordOfDigits`). What a literal denotes can be read off its text
(`Numeral.WrittenAs.toNat_eq`).
-/

namespace Lexis

open CharClass

/-- The integer with the given digits, the most significant one first. -/
def natOfDigits (radix : Nat) (digits : List Nat) : Nat := Nat.ofDigits radix digits.reverse

variable {radix : Nat} {digits : List Nat}

theorem natOfDigits_cons (radix d : Nat) (digits : List Nat) :
    natOfDigits radix (d :: digits) = d * radix ^ digits.length + natOfDigits radix digits := by
  rw [natOfDigits, List.reverse_cons, Nat.ofDigits_append, Nat.ofDigits_singleton,
    List.length_reverse, Nat.mul_comm, Nat.add_comm]
  rfl

theorem natOfDigits_lt (hradix : 1 < radix) (h : ∀ d ∈ digits, d < radix) :
    natOfDigits radix digits < radix ^ digits.length := by
  rw [← List.length_reverse]
  exact Nat.ofDigits_lt_base_pow_length hradix fun d hd => h d (List.mem_reverse.1 hd)

/-! ## Overflow -/

theorem foldlM_integer (hradix : 0 < radix) (digits : List Nat) (n : Nat) :
    digits.foldlM (fun n d =>
        if n * radix + d < UInt64.size then some (n * radix + d) else none) n =
      if digits = [] ∨ n * radix ^ digits.length + natOfDigits radix digits < UInt64.size then
        some (n * radix ^ digits.length + natOfDigits radix digits)
      else none := by
  induction digits generalizing n with
  | nil => simp [natOfDigits]
  | cons d digits ih =>
    have hsum : (n * radix + d) * radix ^ digits.length + natOfDigits radix digits =
        n * radix ^ (d :: digits).length + natOfDigits radix (d :: digits) := by
      rw [natOfDigits_cons, List.length_cons, Nat.pow_succ]
      ring
    have hle : n * radix + d ≤
        (n * radix + d) * radix ^ digits.length + natOfDigits radix digits :=
      Nat.le_trans (Nat.le_mul_of_pos_right _ (Nat.pow_pos hradix)) (Nat.le_add_right _ _)
    rw [List.foldlM_cons]
    by_cases hfits : n * radix + d < UInt64.size
    · simp only [hfits, if_true, Option.bind_eq_bind, Option.bind_some, ih, hsum, reduceCtorEq,
        false_or]
      cases digits with
      | nil =>
        rw [← hsum]
        simp [natOfDigits, hfits]
      | cons => simp
    · -- What does not fit at one digit does not fit with more of them behind it.
      have hbroken : ¬ n * radix ^ (d :: digits).length + natOfDigits radix (d :: digits) <
          UInt64.size := by
        rw [← hsum]
        exact Nat.not_lt.2 (Nat.le_trans (Nat.le_of_not_lt hfits) hle)
      rw [if_neg hfits, if_neg (by simpa using hbroken)]
      rfl

/-- The steps overflow exactly if the integer does not fit into 64 bits. -/
theorem integerOfDigits?_eq (hradix : 0 < radix) (digits : List Nat) :
    integerOfDigits? radix digits =
      if natOfDigits radix digits < UInt64.size then
        some (UInt64.ofNat (natOfDigits radix digits))
      else none := by
  have hfold := foldlM_integer hradix digits 0
  rw [Nat.zero_mul, Nat.zero_add] at hfold
  rw [integerOfDigits?]
  simp only [hfold]
  cases digits with
  | nil => rfl
  | cons d digits =>
    simp only [reduceCtorEq, false_or]
    split <;> rfl

theorem toNat_foldl_word (digits : List Nat) (w : UInt64) :
    (digits.foldl (fun n d => n * 10 + UInt64.ofNat d) w).toNat =
      (w.toNat * 10 ^ digits.length + natOfDigits 10 digits) % UInt64.size := by
  induction digits generalizing w with
  | nil => simp [natOfDigits, Nat.mod_eq_of_lt w.toNat_lt_size]
  | cons d digits ih =>
    rw [List.foldl_cons, ih, natOfDigits_cons, List.length_cons, Nat.pow_succ]
    have hstep : (w * 10 + UInt64.ofNat d).toNat ≡ w.toNat * 10 + d [MOD UInt64.size] := by
      simp [Nat.ModEq, UInt64.toNat_add, UInt64.toNat_mul]
    have hshift := (hstep.mul_right (10 ^ digits.length)).add_right (natOfDigits 10 digits)
    have hsum : (w.toNat * 10 + d) * 10 ^ digits.length + natOfDigits 10 digits =
        w.toNat * (10 ^ digits.length * 10) +
          (d * 10 ^ digits.length + natOfDigits 10 digits) := by ring
    exact hsum ▸ hshift

/-- Fewer than nineteen decimal digits do not overflow. -/
theorem natOfDigits_lt_size (h : ∀ d ∈ digits, d < 10) (hfew : digits.length < exactDigits) :
    natOfDigits 10 digits < UInt64.size := by
  calc natOfDigits 10 digits < 10 ^ digits.length := natOfDigits_lt (by decide) h
    _ ≤ 10 ^ 19 := Nat.pow_le_pow_right (by decide) (Nat.le_of_lt hfew)
    _ < UInt64.size := by decide

theorem toNat_wordOfDigits (h : ∀ d ∈ digits, d < 10) (hfew : digits.length < exactDigits) :
    (wordOfDigits digits).toNat = natOfDigits 10 digits := by
  rw [wordOfDigits, toNat_foldl_word]
  have hsmall := natOfDigits_lt_size h hfew
  have hzero : (0 : UInt64).toNat * 10 ^ digits.length = 0 := by
    rw [show (0 : UInt64).toNat = 0 by decide, Nat.zero_mul]
  rw [hzero, Nat.zero_add, Nat.mod_eq_of_lt hsmall]

/-! ## Kinds -/

namespace Numeral

/-- The literal denotes a floating-point number. -/
def TakesFloat : Numeral → Prop
  | .based base digits => 2 ^ 64 ≤ natOfDigits base.radix digits
  | .decimal whole fraction? exponent? =>
    fraction?.isSome ∨ exponent?.isSome ∨ 19 ≤ whole.length

theorem isFloat_iff_takesFloat (n : Numeral) : n.isFloat = true ↔ n.TakesFloat := by
  cases n with
  | based base digits =>
    have hpos : 0 < base.radix := by cases base <;> decide
    rw [isFloat, integerOfDigits?_eq hpos, TakesFloat]
    split
    · rename_i hlt
      have hnot : ¬ 2 ^ 64 ≤ natOfDigits base.radix digits := Nat.not_le.2 hlt
      simp only [Option.isNone_some, Bool.false_eq_true, hnot]
    · rename_i hnot
      exact ⟨fun _ => Nat.le_of_not_lt hnot, fun _ => rfl⟩
  | decimal whole fraction? exponent? =>
    simp only [isFloat, TakesFloat, Bool.or_eq_true, or_assoc, decide_eq_true_eq]
    exact Iff.rfl

theorem value_ne_text (n : Numeral) (text : String) : n.value ≠ .text text := by
  fun_cases Numeral.value n <;> nofun

theorem numberKind_value (n : Numeral) :
    (Scanner.numberKind n.value = .intLiteral ∨ Scanner.numberKind n.value = .floatLiteral) ∧
      (Scanner.numberKind n.value = .floatLiteral ↔ n.TakesFloat) := by
  rw [← isFloat_iff_takesFloat, isFloat_iff]
  cases hvalue : n.value with
  | int v => exact ⟨.inl rfl, nofun, fun ⟨_, h⟩ => by cases h⟩
  | float bits => exact ⟨.inr rfl, fun _ => ⟨bits, rfl⟩, fun _ => rfl⟩
  | text s => exact absurd hvalue (n.value_ne_text s)

/-! ## What a text denotes -/

end Numeral

/-- The base whose marker a text begins with. -/
def markedBase? : List Char → Option Base
  | '0' :: letter :: _ => Base.ofLetter? letter
  | _ => none

/-- The integer that the digits of a literal make up in its base, the marker left out. -/
def integerOfText (text : List Char) : Nat :=
  match markedBase? text with
  | some base => natOfDigits base.radix (digitsIn base.radix (text.drop 2))
  | none => natOfDigits 10 (digitsIn 10 text)

namespace Numeral

variable {n : Numeral} {text : List Char}

def base? : Numeral → Option Base
  | .based base _ => some base
  | .decimal .. => none

theorem markedBase?_of_head {text : List Char} (h : text.head? ≠ some '0') :
    markedBase? text = none := by
  unfold markedBase?
  split
  · exact absurd rfl h
  · rfl

theorem WrittenAs.markedBase?_eq (h : n.WrittenAs text) : markedBase? text = n.base? := by
  cases h with
  | based hletter => exact hletter
  | fraction => exact markedBase?_of_head nofun
  | @decimal whole fraction exponent fraction? exponent? hwhole hfraction hexponent =>
    obtain rfl | ⟨hgroup, hzero⟩ := hwhole
    · have hhead := hfraction.forall_head hexponent (p := fun ch => Base.ofLetter? ch = none)
        rfl rfl rfl
      cases hrest : fraction ++ exponent with
      | nil => rfl
      | cons next rest => exact hhead next (hrest ▸ rfl)
    · obtain ⟨first, more, rfl, -⟩ := hgroup.exists_cons
      exact markedBase?_of_head hzero

/-- An integer is the one that its text spells. -/
theorem WrittenAs.toNat_eq (h : n.WrittenAs text) {v : UInt64} (hvalue : n.value = .int v) :
    v.toNat = integerOfText text := by
  have hbase := h.markedBase?_eq
  cases h with
  | @based base letter group hletter hgroup =>
    have hpos : 0 < base.radix := by cases base <;> decide
    rw [integerOfText, hbase]
    rw [value, integerOfDigits?_eq hpos] at hvalue
    split at hvalue
    · rename_i w hsome
      cases hvalue
      split at hsome
      · rename_i hlt
        cases hsome
        exact UInt64.toNat_ofNat_of_lt' hlt
      · cases hsome
    · cases hvalue
  | fraction => cases ‹ExponentText _ _ _› <;> cases hvalue
  | @decimal whole fraction exponent fraction? exponent? hwhole hfraction hexponent =>
    rw [integerOfText, hbase]
    cases hfraction with
    | present => cases hexponent <;> cases hvalue
    | absent =>
      cases hexponent with
      | plain => cases hvalue
      | signed => cases hvalue
      | absent =>
        rw [value] at hvalue
        split at hvalue
        · cases hvalue
        · rename_i hfew
          cases hvalue
          rw [List.append_nil, List.append_nil]
          exact toNat_wordOfDigits (forall_digitsIn_lt 10 whole) (Nat.lt_of_not_le hfew)

/-- With a marker, it is the size of the integer that decides. -/
theorem WrittenAs.takesFloat_iff {base : Base} (h : n.WrittenAs text)
    (hbase : markedBase? text = some base) : n.TakesFloat ↔ 2 ^ 64 ≤ integerOfText text := by
  rw [h.markedBase?_eq] at hbase
  have hmarked := h.markedBase?_eq
  cases h with
  | based hletter hdigits =>
    rw [integerOfText, hmarked]
    exact Iff.rfl
  | decimal => cases hbase
  | fraction => cases hbase

end Numeral

end Lexis
