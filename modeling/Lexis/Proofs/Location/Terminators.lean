import Lexis.LineTracker

/-!
# Line terminators of a buffer

What a walk that starts beside a line terminator meets: terminators do not overlap, the one that
begins at an offset ends where it is found from behind, and the bounds of a line are the nearest
terminators on either side.
-/

namespace Lexis

variable {bytes : ByteArray} {offset start : Nat}

theorem terminatorWidthAt_of_lineBreak {b : UInt8} (h : bytes[offset]? = some b)
    (hb : isLineBreakByte b = true) : terminatorWidthAt bytes offset = 1 := by
  simp [terminatorWidthAt, h, hb]

theorem terminatorWidthAt_of_separator (h : isSeparatorAt bytes offset = true) :
    terminatorWidthAt bytes offset = 3 := by
  have hlead : bytes[offset]? = some 0xE2 := by
    simp only [isSeparatorAt, Bool.and_eq_true, beq_iff_eq] at h
    exact h.1.1
  rw [terminatorWidthAt, if_neg (by rw [hlead]; decide), if_pos h]

theorem terminatorWidthAt_cases (bytes : ByteArray) (offset : Nat) :
    terminatorWidthAt bytes offset = 0 ∨
      terminatorWidthAt bytes offset = 1 ∧
        (bytes[offset]? = some 0x0A ∨ bytes[offset]? = some 0x0D) ∨
      terminatorWidthAt bytes offset = 3 ∧ bytes[offset]? = some 0xE2 ∧
        bytes[offset + 1]? = some 0x80 ∧
        (bytes[offset + 2]? = some 0xA8 ∨ bytes[offset + 2]? = some 0xA9) := by
  unfold terminatorWidthAt
  split
  · rename_i h
    refine .inr (.inl ⟨rfl, ?_⟩)
    cases hb : bytes[offset]? with
    | none => simp [hb] at h
    | some b => simpa [hb, isLineBreakByte] using h
  · split
    · rename_i h
      simp only [isSeparatorAt, Bool.and_eq_true, Bool.or_eq_true, beq_iff_eq] at h
      exact .inr (.inr ⟨rfl, h.1.1, h.1.2, h.2⟩)
    · exact .inl rfl

theorem add_terminatorWidthAt_le (h : terminatorWidthAt bytes offset ≠ 0) :
    offset + terminatorWidthAt bytes offset ≤ bytes.size := by
  have hlt : ∀ {i : Nat} {b : UInt8}, bytes[i]? = some b → i < bytes.size := by
    intro i b hb
    apply Nat.lt_of_not_le
    intro hle
    rw [getElem?_neg bytes i (by omega)] at hb
    cases hb
  rcases terminatorWidthAt_cases bytes offset with h0 | ⟨hw, hb⟩ | ⟨hw, _, _, hb⟩
  · exact absurd h0 h
  · have : offset < bytes.size := hb.elim hlt hlt
    omega
  · have : offset + 2 < bytes.size := hb.elim hlt hlt
    omega

theorem lt_size_of_terminatorWidthAt (h : terminatorWidthAt bytes offset ≠ 0) :
    offset < bytes.size := by
  have := add_terminatorWidthAt_le h
  omega

/-- No terminator begins inside another one. -/
theorem terminatorWidthAt_eq_zero_of_inside (hlt : start < offset)
    (hinside : offset < start + terminatorWidthAt bytes start) :
    terminatorWidthAt bytes offset = 0 := by
  rcases terminatorWidthAt_cases bytes start with h0 | ⟨hw, -⟩ | ⟨hw, -, hmiddle, hlast⟩
  · omega
  · omega
  · have hcases : offset = start + 1 ∨ offset = start + 2 := by omega
    rcases terminatorWidthAt_cases bytes offset with h0 | ⟨-, hb⟩ | ⟨-, hb, -⟩
    · exact h0
    · rcases hcases with rfl | rfl
      · simp [hmiddle] at hb
      · rcases hlast with hlast | hlast <;> simp [hlast] at hb
    · rcases hcases with rfl | rfl
      · simp [hmiddle] at hb
      · rcases hlast with hlast | hlast <;> simp [hlast] at hb

/-- The terminator that begins at an offset is found from its end. -/
theorem terminatorWidthBefore_add (h : terminatorWidthAt bytes offset ≠ 0) :
    terminatorWidthBefore bytes (offset + terminatorWidthAt bytes offset) =
      terminatorWidthAt bytes offset := by
  rcases terminatorWidthAt_cases bytes offset with h0 | ⟨hw, hb⟩ | ⟨hw, hlead, hmiddle, hlast⟩
  · exact absurd h0 h
  · rw [hw]
    have hnot : ¬ (3 ≤ offset + 1 ∧ isSeparatorAt bytes (offset + 1 - 3) = true) := by
      rintro ⟨hle, hsep⟩
      refine h (terminatorWidthAt_eq_zero_of_inside (show offset + 1 - 3 < offset by omega) ?_)
      rw [terminatorWidthAt_of_separator hsep]
      omega
    have hbreak : bytes[offset]?.any isLineBreakByte = true := by
      rcases hb with hb | hb <;> rw [hb] <;> decide
    simp only [terminatorWidthBefore, Bool.and_eq_true, decide_eq_true_eq, if_neg hnot]
    rw [if_pos ⟨by omega, hbreak⟩]
  · have hsep : isSeparatorAt bytes offset = true := by
      simp [isSeparatorAt, hlead, hmiddle, hlast]
    rw [hw, terminatorWidthBefore, if_pos (by simpa using hsep)]

/-- A terminator that is found from its end begins there. -/
theorem terminatorWidthAt_sub (h : terminatorWidthBefore bytes offset ≠ 0) :
    terminatorWidthBefore bytes offset ≤ offset ∧
      terminatorWidthAt bytes (offset - terminatorWidthBefore bytes offset) =
        terminatorWidthBefore bytes offset := by
  unfold terminatorWidthBefore at h ⊢
  simp only [Bool.and_eq_true, decide_eq_true_eq] at h ⊢
  split
  · rename_i hsep
    exact ⟨hsep.1, terminatorWidthAt_of_separator hsep.2⟩
  · rename_i hsep
    rw [if_neg hsep] at h
    split
    · rename_i hbreak
      refine ⟨hbreak.1, ?_⟩
      rw [terminatorWidthAt, if_pos hbreak.2]
    · rename_i hbreak
      rw [if_neg hbreak] at h
      exact absurd rfl h

/-! ## Places outside terminators -/

/-- No terminator reaches over the offset. -/
def Outside (bytes : ByteArray) (offset : Nat) : Prop :=
  ∀ start, start < offset → start + terminatorWidthAt bytes start ≤ offset

namespace Outside

theorem zero (bytes : ByteArray) : Outside bytes 0 := fun _ h => absurd h (Nat.not_lt_zero _)

theorem add_one (h : Outside bytes offset) (hwidth : terminatorWidthAt bytes offset = 0) :
    Outside bytes (offset + 1) := by
  intro start hlt
  by_cases heq : start = offset
  · subst heq
    omega
  · have := h start (by omega)
    omega

theorem add_width (h : Outside bytes offset) :
    Outside bytes (offset + terminatorWidthAt bytes offset) := by
  intro start hlt
  by_cases hbefore : start < offset
  · have := h start hbefore
    omega
  · by_cases heq : start = offset
    · exact Nat.le_of_eq (by rw [heq])
    · rw [terminatorWidthAt_eq_zero_of_inside (show offset < start by omega) hlt]
      omega

theorem terminatorWidthBefore_add_one (h : Outside bytes offset)
    (hwidth : terminatorWidthAt bytes offset = 0) :
    terminatorWidthBefore bytes (offset + 1) = 0 := by
  by_cases h0 : terminatorWidthBefore bytes (offset + 1) = 0
  · exact h0
  · obtain ⟨hle, hstart⟩ := terminatorWidthAt_sub h0
    by_cases hone : terminatorWidthBefore bytes (offset + 1) = 1
    · rw [hone, Nat.add_sub_cancel] at hstart
      omega
    · have := h (offset + 1 - terminatorWidthBefore bytes (offset + 1)) (by omega)
      omega

theorem terminatorWidthAt_sub_one (h : Outside bytes (offset + 1))
    (hwidth : terminatorWidthBefore bytes (offset + 1) = 0) :
    terminatorWidthAt bytes offset = 0 := by
  by_cases h0 : terminatorWidthAt bytes offset = 0
  · exact h0
  · have hle := h offset (Nat.lt_succ_self _)
    have hone : terminatorWidthAt bytes offset = 1 := by omega
    have hend := terminatorWidthBefore_add h0
    rw [hone] at hend
    omega

theorem sub_one (h : Outside bytes (offset + 1))
    (hwidth : terminatorWidthBefore bytes (offset + 1) = 0) : Outside bytes offset := by
  intro start hlt
  have hle := h start (by omega)
  by_cases h0 : terminatorWidthAt bytes start = 0
  · omega
  · have hend := terminatorWidthBefore_add h0
    by_cases heq : start + terminatorWidthAt bytes start = offset + 1
    · rw [heq] at hend
      omega
    · omega

theorem sub_width (hwidth : terminatorWidthBefore bytes offset ≠ 0) :
    Outside bytes (offset - terminatorWidthBefore bytes offset) := by
  intro start hlt
  obtain ⟨_, hstart⟩ := terminatorWidthAt_sub hwidth
  refine Nat.le_of_not_lt fun hinside => hwidth ?_
  rw [← hstart]
  exact terminatorWidthAt_eq_zero_of_inside hlt hinside

end Outside

/-! ## Bounds of lines -/

theorem lineStartBefore_le (bytes : ByteArray) (offset : Nat) :
    lineStartBefore bytes offset ≤ offset := by
  induction offset with
  | zero => exact Nat.le_refl _
  | succ offset ih =>
    rw [lineStartBefore]
    split <;> omega

theorem lineStartBefore_eq_zero_or (bytes : ByteArray) (offset : Nat) :
    lineStartBefore bytes offset = 0 ∨
      terminatorWidthBefore bytes (lineStartBefore bytes offset) ≠ 0 := by
  induction offset with
  | zero => exact .inl rfl
  | succ offset ih =>
    rw [lineStartBefore]
    split
    · exact ih
    · rename_i h
      exact .inr h

theorem le_lineStartBefore {stop : Nat} (hle : stop ≤ offset)
    (h : terminatorWidthBefore bytes stop ≠ 0) : stop ≤ lineStartBefore bytes offset := by
  induction offset with
  | zero => omega
  | succ offset ih =>
    rw [lineStartBefore]
    split
    · rename_i h0
      refine ih ?_
      by_cases heq : stop = offset + 1
      · exact absurd (heq ▸ h0) h
      · omega
    · exact hle

theorem le_lineEndFrom (h : offset ≤ bytes.size) : offset ≤ lineEndFrom bytes offset := by
  fun_induction lineEndFrom bytes offset with
  | case1 offset hlt hwidth ih =>
    have := ih hlt
    omega
  | case2 => exact Nat.le_refl _
  | case3 => exact h

theorem lineEndFrom_eq_size_or (bytes : ByteArray) (offset : Nat) :
    lineEndFrom bytes offset = bytes.size ∨
      terminatorWidthAt bytes (lineEndFrom bytes offset) ≠ 0 := by
  fun_induction lineEndFrom bytes offset with
  | case1 offset hlt hwidth ih => exact ih
  | case2 offset hlt hwidth => exact .inr hwidth
  | case3 => exact .inl rfl

theorem lineEndFrom_le_size (bytes : ByteArray) (offset : Nat) :
    lineEndFrom bytes offset ≤ bytes.size := by
  obtain hsize | hwidth := lineEndFrom_eq_size_or bytes offset
  · exact Nat.le_of_eq hsize
  · exact Nat.le_of_lt (lt_size_of_terminatorWidthAt hwidth)

theorem lineEndFrom_le (hle : offset ≤ start) (h : terminatorWidthAt bytes start ≠ 0) :
    lineEndFrom bytes offset ≤ start := by
  fun_induction lineEndFrom bytes offset with
  | case1 offset hlt hwidth ih =>
    refine ih ?_
    by_cases heq : offset = start
    · exact absurd (heq ▸ hwidth) h
    · omega
  | case2 => exact hle
  | case3 offset hlt =>
    have := lt_size_of_terminatorWidthAt h
    omega

end Lexis
