import Lexis.Proofs.Utf8.Spelling
import Lexis.Utf8.Lossy

/-!
# Which bytes are an encoding

The encodings of code points are the sequences of one to four bytes in which the first byte
announces the length, the second one may follow it, and all others are continuation bytes
(`encoding_iff`). A list of bytes that begins with none of them is malformed in one of a few ways:
it is empty, begins with a byte that begins no encoding or with one that the second byte may not
follow, or it breaks off (`malformed_iff`).
-/

namespace Lexis.Utf8

variable {a b lead second : UInt8} {bytes rest : List UInt8}

/-! ## Ranges of bytes -/

theorem isContinuation_iff : isContinuation b = true ↔ 0x80 ≤ b.toNat ∧ b.toNat ≤ 0xBF := by
  have key : ∀ v : BitVec 8, v &&& 0xC0#8 = 0x80#8 ↔ 0x80#8 ≤ v ∧ v ≤ 0xBF#8 := by decide
  rw [isContinuation, beq_iff_eq, ← UInt8.toBitVec_inj]
  exact key b.toBitVec

theorem encodingWidth_eq_one_iff : encodingWidth a = 1 ↔ a.toNat ≤ 0x7F := by
  simp only [encodingWidth, UInt8.lt_iff_toNat_lt, UInt8.le_iff_toNat_le, UInt8.reduceToNat]
  grind

theorem encodingWidth_eq_two_iff : encodingWidth a = 2 ↔ 0xC2 ≤ a.toNat ∧ a.toNat ≤ 0xDF := by
  simp only [encodingWidth, UInt8.lt_iff_toNat_lt, UInt8.le_iff_toNat_le, UInt8.reduceToNat]
  grind

theorem encodingWidth_eq_three_iff : encodingWidth a = 3 ↔ 0xE0 ≤ a.toNat ∧ a.toNat ≤ 0xEF := by
  simp only [encodingWidth, UInt8.lt_iff_toNat_lt, UInt8.le_iff_toNat_le, UInt8.reduceToNat]
  grind

theorem encodingWidth_eq_four_iff : encodingWidth a = 4 ↔ 0xF0 ≤ a.toNat ∧ a.toNat ≤ 0xF4 := by
  simp only [encodingWidth, UInt8.lt_iff_toNat_lt, UInt8.le_iff_toNat_le, UInt8.reduceToNat]
  grind

theorem encodingWidth_pos_iff :
    0 < encodingWidth a ↔ a.toNat ≤ 0x7F ∨ 0xC2 ≤ a.toNat ∧ a.toNat ≤ 0xF4 := by
  simp only [encodingWidth, UInt8.lt_iff_toNat_lt, UInt8.le_iff_toNat_le, UInt8.reduceToNat]
  grind

theorem encodingWidth_le_four (a : UInt8) : encodingWidth a ≤ 4 := by
  unfold encodingWidth
  grind

theorem canFollow_iff :
    canFollow lead second = true ↔ (0x80 ≤ second.toNat ∧ second.toNat ≤ 0xBF) ∧
      (lead.toNat = 0xE0 → 0xA0 ≤ second.toNat) ∧ (lead.toNat = 0xED → second.toNat ≤ 0x9F) ∧
      (lead.toNat = 0xF0 → 0x90 ≤ second.toNat) ∧ (lead.toNat = 0xF4 → second.toNat ≤ 0x8F) := by
  simp only [canFollow, ← UInt8.toNat_inj, UInt8.reduceToNat]
  split
  · simp only [Bool.and_eq_true, decide_eq_true_eq, UInt8.le_iff_toNat_le, UInt8.reduceToNat]
    omega
  · split
    · simp only [Bool.and_eq_true, decide_eq_true_eq, UInt8.le_iff_toNat_le, UInt8.reduceToNat]
      omega
    · split
      · simp only [Bool.and_eq_true, decide_eq_true_eq, UInt8.le_iff_toNat_le, UInt8.reduceToNat]
        omega
      · split
        · simp only [Bool.and_eq_true, decide_eq_true_eq, UInt8.le_iff_toNat_le, UInt8.reduceToNat]
          omega
        · rw [isContinuation_iff]
          omega

/-! ## Encodings -/

/-- The sequences of bytes that encode a code point. -/
inductive Encoding : List UInt8 → Prop
  | one {a : UInt8} (ha : encodingWidth a = 1) : Encoding [a]
  | two {a b : UInt8} (ha : encodingWidth a = 2) (hb : canFollow a b = true) : Encoding [a, b]
  | three {a b c : UInt8} (ha : encodingWidth a = 3) (hb : canFollow a b = true)
      (hc : isContinuation c = true) : Encoding [a, b, c]
  | four {a b c d : UInt8} (ha : encodingWidth a = 4) (hb : canFollow a b = true)
      (hc : isContinuation c = true) (hd : isContinuation d = true) : Encoding [a, b, c, d]

theorem encoding_utf8EncodeChar (ch : Char) : Encoding (String.utf8EncodeChar ch) := by
  have hvalid : ch.val.toNat < 0xD800 ∨ 0xDFFF < ch.val.toNat ∧ ch.val.toNat < 0x110000 := ch.valid
  unfold String.utf8EncodeChar
  simp only
  split
  · apply Encoding.one
    rw [encodingWidth_eq_one_iff, UInt8.toNat_ofNat']
    omega
  · split
    · apply Encoding.two
      · rw [encodingWidth_eq_two_iff, UInt8.toNat_ofNat']
        omega
      · rw [canFollow_iff, UInt8.toNat_ofNat', UInt8.toNat_ofNat']
        omega
    · split
      · apply Encoding.three
        · rw [encodingWidth_eq_three_iff, UInt8.toNat_ofNat']
          omega
        · rw [canFollow_iff, UInt8.toNat_ofNat', UInt8.toNat_ofNat']
          omega
        · rw [isContinuation_iff, UInt8.toNat_ofNat']
          omega
      · apply Encoding.four
        · rw [encodingWidth_eq_four_iff, UInt8.toNat_ofNat']
          omega
        · rw [canFollow_iff, UInt8.toNat_ofNat', UInt8.toNat_ofNat']
          omega
        · rw [isContinuation_iff, UInt8.toNat_ofNat']
          omega
        · rw [isContinuation_iff, UInt8.toNat_ofNat']
          omega

theorem exists_toNat_eq {v : Nat} (h : v.isValidChar) : ∃ ch : Char, ch.val.toNat = v := by
  refine ⟨Char.ofNatAux v h, ?_⟩
  show (UInt32.ofNatLT v _).toNat = v
  exact UInt32.toNat_ofNatLT

theorem Encoding.exists_char (h : Encoding bytes) : ∃ ch, String.utf8EncodeChar ch = bytes := by
  cases h with
  | @one a ha =>
    rw [encodingWidth_eq_one_iff] at ha
    obtain ⟨ch, hch⟩ : ∃ ch : Char, ch.val.toNat = a.toNat :=
      exists_toNat_eq (.inl (by omega))
    refine ⟨ch, ?_⟩
    simp only [String.utf8EncodeChar, hch, List.cons.injEq, ← UInt8.toNat_inj, UInt8.toNat_ofNat',
      if_pos ha, and_true]
    omega
  | @two a b ha hb =>
    rw [encodingWidth_eq_two_iff] at ha
    rw [canFollow_iff] at hb
    obtain ⟨ch, hch⟩ : ∃ ch : Char,
        ch.val.toNat = (a.toNat - 0xC0) * 64 + (b.toNat - 0x80) :=
      exists_toNat_eq (.inl (by omega))
    refine ⟨ch, ?_⟩
    rw [String.utf8EncodeChar]
    simp only [hch]
    rw [if_neg (by omega), if_pos (by omega)]
    simp only [List.cons.injEq, ← UInt8.toNat_inj, UInt8.toNat_ofNat',
      and_true]
    omega
  | @three a b c ha hb hc =>
    rw [encodingWidth_eq_three_iff] at ha
    rw [canFollow_iff] at hb
    rw [isContinuation_iff] at hc
    obtain ⟨ch, hch⟩ : ∃ ch : Char, ch.val.toNat =
        (a.toNat - 0xE0) * 4096 + (b.toNat - 0x80) * 64 + (c.toNat - 0x80) :=
      exists_toNat_eq (by unfold Nat.isValidChar; omega)
    refine ⟨ch, ?_⟩
    rw [String.utf8EncodeChar]
    simp only [hch]
    rw [if_neg (by omega), if_neg (by omega), if_pos (by omega)]
    simp only [List.cons.injEq, ← UInt8.toNat_inj, UInt8.toNat_ofNat',
      and_true]
    omega
  | @four a b c d ha hb hc hd =>
    rw [encodingWidth_eq_four_iff] at ha
    rw [canFollow_iff] at hb
    rw [isContinuation_iff] at hc hd
    obtain ⟨ch, hch⟩ : ∃ ch : Char, ch.val.toNat = (a.toNat - 0xF0) * 262144 +
        (b.toNat - 0x80) * 4096 + (c.toNat - 0x80) * 64 + (d.toNat - 0x80) :=
      exists_toNat_eq (by unfold Nat.isValidChar; omega)
    refine ⟨ch, ?_⟩
    rw [String.utf8EncodeChar]
    simp only [hch]
    rw [if_neg (by omega), if_neg (by omega), if_neg (by omega)]
    simp only [List.cons.injEq, ← UInt8.toNat_inj, UInt8.toNat_ofNat',
      and_true]
    omega

theorem encoding_iff : Encoding bytes ↔ ∃ ch, String.utf8EncodeChar ch = bytes := by
  constructor
  · exact Encoding.exists_char
  · rintro ⟨ch, rfl⟩
    exact encoding_utf8EncodeChar ch

/-- The first byte announces how many there are, and all others are continuation bytes. -/
theorem Encoding.exists_cons (h : Encoding bytes) :
    ∃ lead tail, bytes = lead :: tail ∧ tail.length + 1 = encodingWidth lead ∧
      (∀ b ∈ tail, isContinuation b = true) ∧
      ∀ second, tail.head? = some second → canFollow lead second = true := by
  have hfollow : ∀ {a b : UInt8}, canFollow a b = true → isContinuation b = true := by
    intro a b hb
    exact isContinuation_iff.2 (canFollow_iff.1 hb).1
  cases h with
  | @one a ha => exact ⟨a, [], rfl, ha.symm, by simp, by simp⟩
  | @two a b ha hb => exact ⟨a, [b], rfl, ha.symm, by simp [hfollow hb], by simp [hb]⟩
  | @three a b c ha hb hc => exact ⟨a, [b, c], rfl, ha.symm, by simp [hfollow hb, hc], by simp [hb]⟩
  | @four a b c d ha hb hc hd =>
    exact ⟨a, [b, c, d], rfl, ha.symm, by simp [hfollow hb, hc, hd], by simp [hb]⟩

/-- Each code point has one byte that is no continuation byte. -/
theorem countP_utf8EncodeChar (ch : Char) :
    (String.utf8EncodeChar ch).countP (!isContinuation ·) = 1 := by
  obtain ⟨lead, tail, hbytes, hwidth, htail, -⟩ := (encoding_utf8EncodeChar ch).exists_cons
  have hlead : isContinuation lead = false := by
    have hrange := encodingWidth_pos_iff.1 (show 0 < encodingWidth lead by omega)
    rw [Bool.eq_false_iff, ne_eq, isContinuation_iff]
    omega
  have hnone : tail.countP (!isContinuation ·) = 0 := by
    rw [List.countP_eq_zero]
    intro b hb
    simp [htail b hb]
  rw [hbytes, List.countP_cons_of_pos (by simp [hlead]), hnone]

/-! ## Malformed bytes -/

/-- The bytes do not begin with an encoding. -/
inductive Malformed : List UInt8 → Prop
  | nil : Malformed []
  /-- A continuation byte where an encoding would have to begin. -/
  | stray {lead : UInt8} {rest : List UInt8} (h : isContinuation lead = true) :
      Malformed (lead :: rest)
  /-- Two bytes for what fits into one. -/
  | overlongTwo {lead : UInt8} {rest : List UInt8} (h : lead = 0xC0 ∨ lead = 0xC1) :
      Malformed (lead :: rest)
  /-- Three bytes for what fits into two. -/
  | overlongThree {second : UInt8} {rest : List UInt8} (h : 0x80 ≤ second ∧ second ≤ 0x9F) :
      Malformed (0xE0 :: second :: rest)
  /-- Four bytes for what fits into three. -/
  | overlongFour {second : UInt8} {rest : List UInt8} (h : 0x80 ≤ second ∧ second ≤ 0x8F) :
      Malformed (0xF0 :: second :: rest)
  | surrogate {second : UInt8} {rest : List UInt8} (h : 0xA0 ≤ second ∧ second ≤ 0xBF) :
      Malformed (0xED :: second :: rest)
  /-- Beyond the largest code point, as the second byte shows. -/
  | tooLarge {second : UInt8} {rest : List UInt8} (h : 0x90 ≤ second ∧ second ≤ 0xBF) :
      Malformed (0xF4 :: second :: rest)
  /-- Beyond the largest code point, as the first byte shows. -/
  | tooLargeLead {lead : UInt8} {rest : List UInt8} (h : 0xF5 ≤ lead) : Malformed (lead :: rest)
  /-- Fewer continuation bytes than the first byte announces. -/
  | truncated {lead : UInt8} {rest : List UInt8}
      (h : (rest.takeWhile isContinuation).length + 1 < encodingWidth lead) :
      Malformed (lead :: rest)

theorem Encoding.not_malformed {encoding : List UInt8} (h : Encoding encoding)
    (hbegins : encoding <+: bytes) : ¬ Malformed bytes := by
  obtain ⟨lead, tail, rfl, hwidth, htail, hsecond⟩ := h.exists_cons
  have hlead : lead.toNat ≤ 0x7F ∨ 0xC2 ≤ lead.toNat ∧ lead.toNat ≤ 0xF4 :=
    encodingWidth_pos_iff.1 (by omega)
  obtain ⟨rest, rfl⟩ := hbegins
  -- A second byte is one of the encoding, unless the first one stands alone.
  have hfollow : ∀ {second behind}, tail ++ rest = second :: behind → 0x80 ≤ lead.toNat →
      canFollow lead second = true := by
    intro second behind heq hhigh
    cases tail with
    | nil =>
      have := encodingWidth_eq_one_iff.1 hwidth.symm
      omega
    | cons first tail =>
      obtain ⟨rfl, -⟩ := List.cons.inj heq
      exact hsecond first rfl
  intro hmalformed
  rw [List.cons_append] at hmalformed
  generalize hbehind : tail ++ rest = behind at hmalformed hfollow
  cases hmalformed with
  | stray hstray =>
    rw [isContinuation_iff] at hstray
    omega
  | overlongTwo heq =>
    simp only [← UInt8.toNat_inj, UInt8.reduceToNat] at heq
    omega
  | overlongThree hrange | overlongFour hrange | surrogate hrange | tooLarge hrange =>
    have hfits := canFollow_iff.1 (hfollow rfl (by decide))
    simp only [UInt8.le_iff_toNat_le, UInt8.reduceToNat, forall_const] at hfits hrange
    omega
  | tooLargeLead hlarge =>
    simp only [UInt8.le_iff_toNat_le, UInt8.reduceToNat] at hlarge
    omega
  | truncated hshort =>
    subst hbehind
    rw [List.takeWhile_append_of_pos htail, List.length_append] at hshort
    omega

/-- As many continuation bytes as the first byte announces stand behind it. -/
theorem exists_tail_of_not_malformed (h : ¬ Malformed (lead :: rest))
    (hpos : 0 < encodingWidth lead) :
    ∃ tail more, rest = tail ++ more ∧ tail.length + 1 = encodingWidth lead ∧
      ∀ b ∈ tail, isContinuation b = true := by
  have hlong : encodingWidth lead ≤ (rest.takeWhile isContinuation).length + 1 :=
    Nat.le_of_not_lt fun hshort => h (.truncated hshort)
  let tail := (rest.takeWhile isContinuation).take (encodingWidth lead - 1)
  obtain ⟨more, hmore⟩ : tail <+: rest :=
    (List.take_prefix _ _).trans (List.takeWhile_prefix _)
  refine ⟨tail, more, hmore.symm, ?_, ?_⟩
  · rw [List.length_take]
    omega
  · intro b hb
    exact List.all_eq_true.1 List.all_takeWhile b (List.mem_of_mem_take hb)

theorem canFollow_of_not_malformed (h : ¬ Malformed (lead :: second :: rest))
    (hsecond : isContinuation second = true) : canFollow lead second = true := by
  have hrange := isContinuation_iff.1 hsecond
  rw [canFollow_iff]
  refine ⟨hrange, ?_, ?_, ?_, ?_⟩
  · intro hlead
    obtain rfl : lead = 0xE0 := UInt8.toNat_inj.1 hlead
    exact Nat.le_of_not_lt fun hlow => h (.overlongThree ⟨hrange.1, Nat.le_of_lt_succ hlow⟩)
  · intro hlead
    obtain rfl : lead = 0xED := UInt8.toNat_inj.1 hlead
    exact Nat.le_of_not_lt fun hhigh => h (.surrogate ⟨hhigh, hrange.2⟩)
  · intro hlead
    obtain rfl : lead = 0xF0 := UInt8.toNat_inj.1 hlead
    exact Nat.le_of_not_lt fun hlow => h (.overlongFour ⟨hrange.1, Nat.le_of_lt_succ hlow⟩)
  · intro hlead
    obtain rfl : lead = 0xF4 := UInt8.toNat_inj.1 hlead
    exact Nat.le_of_not_lt fun hhigh => h (.tooLarge ⟨hhigh, hrange.2⟩)

theorem exists_encoding_of_not_malformed (h : ¬ Malformed bytes) :
    ∃ encoding, Encoding encoding ∧ encoding <+: bytes := by
  cases bytes with
  | nil => exact absurd .nil h
  | cons lead rest =>
    have hpos : 0 < encodingWidth lead := by
      have hstray : ¬ isContinuation lead = true := mt .stray h
      have hoverlong : ¬ (lead = 0xC0 ∨ lead = 0xC1) := mt .overlongTwo h
      have hlarge : ¬ 0xF5 ≤ lead := mt .tooLargeLead h
      simp only [isContinuation_iff, ← UInt8.toNat_inj, UInt8.le_iff_toNat_le,
        UInt8.reduceToNat] at hstray hoverlong hlarge
      rw [encodingWidth_pos_iff]
      omega
    have hmost := encodingWidth_le_four lead
    obtain ⟨tail, more, rfl, hlength, htail⟩ := exists_tail_of_not_malformed h hpos
    refine ⟨lead :: tail, ?_, List.cons_prefix_cons.2 ⟨rfl, List.prefix_append _ _⟩⟩
    match tail with
    | [] => exact .one hlength.symm
    | [b] =>
      rw [List.forall_mem_singleton] at htail
      exact .two hlength.symm (canFollow_of_not_malformed h htail)
    | [b, c] =>
      simp only [List.forall_mem_cons] at htail
      exact .three hlength.symm (canFollow_of_not_malformed h htail.1) htail.2.1
    | [b, c, d] =>
      simp only [List.forall_mem_cons] at htail
      exact .four hlength.symm (canFollow_of_not_malformed h htail.1) htail.2.1
        htail.2.2.1
    | _ :: _ :: _ :: _ :: _ =>
      simp only [List.length_cons] at hlength
      omega

theorem malformed_iff :
    Malformed bytes ↔ ¬ ∃ ch, String.utf8EncodeChar ch <+: bytes := by
  constructor
  · rintro hmalformed ⟨ch, hprefix⟩
    exact (encoding_iff.2 ⟨ch, rfl⟩).not_malformed hprefix hmalformed
  · intro hnone
    refine Classical.byContradiction fun hwell => hnone ?_
    obtain ⟨encoding, hencoding, hprefix⟩ := exists_encoding_of_not_malformed hwell
    obtain ⟨ch, rfl⟩ := encoding_iff.1 hencoding
    exact ⟨ch, hprefix⟩

end Lexis.Utf8
