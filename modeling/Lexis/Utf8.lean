/-!
# Text in a byte buffer

Reading code points out of bytes that need not be well formed. `textFrom` is the text that starts
at an offset: the code points decoded one after another until the bytes stop being UTF-8.
`validEnd` is the offset where that happens.
-/

namespace Lexis.Utf8

/-- The code point encoded at `offset`, if the bytes there are its UTF-8 encoding. -/
abbrev charAt? (bytes : ByteArray) (offset : Nat) : Option Char := bytes.utf8DecodeChar? offset

theorem lt_size_of_charAt? {bytes : ByteArray} {offset : Nat} {c : Char}
    (h : charAt? bytes offset = some c) : offset < bytes.size :=
  ByteArray.lt_size_of_isSome_utf8DecodeChar? (by simp [h])

theorem le_size_of_charAt? {bytes : ByteArray} {offset : Nat} {c : Char}
    (h : charAt? bytes offset = some c) : offset + c.utf8Size ≤ bytes.size :=
  ByteArray.le_size_of_utf8DecodeChar?_eq_some h

theorem charAt?_eq_none_of_size_le {bytes : ByteArray} {offset : Nat} (h : bytes.size ≤ offset) :
    charAt? bytes offset = none := by
  cases hc : charAt? bytes offset with
  | none => rfl
  | some c => have := lt_size_of_charAt? hc; omega

theorem and_high_bit_of_ascii {b : UInt8} (h : b < 0x80) : b &&& 0x80 = 0 := by
  have key : ∀ v : BitVec 8, v < 0x80#8 → v &&& 0x80#8 = 0#8 := by decide
  exact UInt8.toBitVec_inj.1 (key b.toBitVec h)

theorem utf8Size_ofUInt8 {b : UInt8} (h : b < 0x80) : (Char.ofUInt8 b).utf8Size = 1 := by
  rw [Char.utf8Size_eq_one_iff]
  show b.toUInt32 ≤ 127
  simp only [UInt32.le_iff_toNat_le, UInt8.toNat_toUInt32, UInt32.reduceToNat]
  have : b.toNat < 128 := h
  omega

theorem charAt?_of_ascii {bytes : ByteArray} {offset : Nat} (h : offset < bytes.size)
    (ascii : bytes[offset] < 0x80) : charAt? bytes offset = some (Char.ofUInt8 bytes[offset]) := by
  have hdone : ByteArray.utf8DecodeChar?.parseFirstByte bytes[offset] = .done := by
    simp [ByteArray.utf8DecodeChar?.parseFirstByte, and_high_bit_of_ascii ascii]
  unfold charAt? ByteArray.utf8DecodeChar?
  rw [dif_pos h]
  split <;> rename_i hb <;> rw [hdone] at hb <;> try cases hb
  rfl

/-- The code points from `offset` on, up to the first place where decoding fails. -/
def textFrom (bytes : ByteArray) (offset : Nat) : List Char :=
  match h : charAt? bytes offset with
  | some c =>
    have := lt_size_of_charAt? h
    have := c.utf8Size_pos
    c :: textFrom bytes (offset + c.utf8Size)
  | none => []
termination_by bytes.size - offset

/-- The number of bytes in the encoding of a text. -/
def size : List Char → Nat
  | [] => 0
  | c :: text => c.utf8Size + size text

@[simp]
theorem size_nil : size [] = 0 := rfl

@[simp]
theorem size_cons (c : Char) (text : List Char) : size (c :: text) = c.utf8Size + size text := rfl

@[simp]
theorem size_append (a b : List Char) : size (a ++ b) = size a + size b := by
  induction a with
  | nil => simp
  | cons c a ih => simp [ih, Nat.add_assoc]

theorem length_le_size (text : List Char) : text.length ≤ size text := by
  induction text with
  | nil => simp
  | cons c text ih =>
    have := c.utf8Size_pos
    simp only [List.length_cons, size_cons]
    omega

theorem textFrom_of_some {bytes : ByteArray} {offset : Nat} {c : Char}
    (h : charAt? bytes offset = some c) :
    textFrom bytes offset = c :: textFrom bytes (offset + c.utf8Size) := by
  rw [textFrom]
  split
  · rename_i d hd
    cases h.symm.trans hd
    rfl
  · rename_i hn
    simp [h] at hn

theorem textFrom_of_none {bytes : ByteArray} {offset : Nat} (h : charAt? bytes offset = none) :
    textFrom bytes offset = [] := by
  rw [textFrom]
  split
  · rename_i d hd
    simp [h] at hd
  · rfl

theorem textFrom_eq_nil_of_size_le {bytes : ByteArray} {offset : Nat} (h : bytes.size ≤ offset) :
    textFrom bytes offset = [] :=
  textFrom_of_none (charAt?_eq_none_of_size_le h)

theorem head?_textFrom (bytes : ByteArray) (offset : Nat) :
    (textFrom bytes offset).head? = charAt? bytes offset := by
  cases h : charAt? bytes offset with
  | none => simp [textFrom_of_none h]
  | some c => simp [textFrom_of_some h]

theorem add_size_textFrom_le {bytes : ByteArray} (offset : Nat) (h : offset ≤ bytes.size) :
    offset + size (textFrom bytes offset) ≤ bytes.size := by
  fun_induction textFrom bytes offset with
  | case1 offset c hc _ _ ih =>
    have := le_size_of_charAt? hc
    simp only [size_cons]
    have := ih this
    omega
  | case2 => simpa using h

theorem length_textFrom_le (bytes : ByteArray) (offset : Nat) :
    (textFrom bytes offset).length ≤ bytes.size := by
  by_cases h : offset ≤ bytes.size
  · have := add_size_textFrom_le offset h
    have := length_le_size (textFrom bytes offset)
    omega
  · simp [textFrom_eq_nil_of_size_le (Nat.le_of_not_le h)]

/-- Dropping code points from a text is reading on behind their encodings. -/
theorem textFrom_add_size_take (bytes : ByteArray) (offset n : Nat) :
    textFrom bytes (offset + size ((textFrom bytes offset).take n)) =
      (textFrom bytes offset).drop n := by
  induction n generalizing offset with
  | zero => simp
  | succ n ih =>
    cases hc : charAt? bytes offset with
    | none => simp [textFrom_of_none hc]
    | some c =>
      rw [textFrom_of_some hc]
      simp only [List.take_succ_cons, size_cons, List.drop_succ_cons]
      rw [← Nat.add_assoc, ih]

/-- Where decoding from `offset` stops: at `stop`, or at the first code point that is malformed or
reaches beyond `stop`. -/
def validUpTo (bytes : ByteArray) (stop offset : Nat) : Nat :=
  match h : charAt? bytes offset with
  | some c =>
    have := lt_size_of_charAt? h
    have := c.utf8Size_pos
    if offset + c.utf8Size ≤ stop then validUpTo bytes stop (offset + c.utf8Size) else offset
  | none => offset
termination_by bytes.size - offset

theorem le_validUpTo (bytes : ByteArray) (stop offset : Nat) :
    offset ≤ validUpTo bytes stop offset := by
  fun_induction validUpTo bytes stop offset <;> omega

theorem validUpTo_le {bytes : ByteArray} {stop offset : Nat} (h : offset ≤ stop) :
    validUpTo bytes stop offset ≤ stop := by
  fun_induction validUpTo bytes stop offset <;> omega

/-- The offset behind the last code point of the text that starts at `offset`. -/
def validEnd (bytes : ByteArray) (offset : Nat) : Nat := validUpTo bytes bytes.size offset

/-- Whether the byte continues a code point that an earlier byte has begun. -/
def isContinuation (b : UInt8) : Bool := b &&& 0xC0 == 0x80

end Lexis.Utf8
