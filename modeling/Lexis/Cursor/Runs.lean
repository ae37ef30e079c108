import Lexis.CharClass
import Lexis.Cursor.Lookahead

/-!
# Runs of code points

Moving a cursor over many code points at once. ASCII runs are skipped byte by byte and comment text
by searching for the bytes that can begin a line terminator; both leave the cursor where single
steps would.
-/

namespace Lexis

open CharClass

namespace Cursor

def skipWhile (p : Char → Bool) (c : Cursor) : Cursor :=
  match h : c.current with
  | .scalar ch =>
    have := remaining_advance_lt h
    if p ch then c.advance.skipWhile p else c
  | _ => c
termination_by c.remaining

theorem remaining_skipWhile_le (p : Char → Bool) (c : Cursor) :
    (c.skipWhile p).remaining ≤ c.remaining := by
  fun_induction skipWhile p c with
  | case1 c ch h hlt hp ih => omega
  | case2 => exact Nat.le_refl _
  | case3 => exact Nat.le_refl _

/-! ## ASCII runs -/

/-- The offset of the first byte from `offset` on that is not ASCII or fails `p`. -/
def asciiRunStop (p : Char → Bool) (bytes : ByteArray) (offset : Nat) : Nat :=
  if h : offset < bytes.size then
    if bytes[offset] < 0x80 && p (Char.ofUInt8 bytes[offset]) then asciiRunStop p bytes (offset + 1)
    else offset
  else offset
termination_by bytes.size - offset

/-- How often the byte occurs from `start` up to, but not including, `stop`. -/
def countByte (bytes : ByteArray) (b : UInt8) (start stop : Nat) : Nat :=
  (List.range' start (stop - start)).countP fun i => bytes[i]? == some b

theorem ascii_of_lt_asciiRunStop {p : Char → Bool} {bytes : ByteArray} {offset i : Nat}
    (hle : offset ≤ i) (hlt : i < asciiRunStop p bytes offset) :
    ∃ h : i < bytes.size, bytes[i] < 0x80 ∧ p (Char.ofUInt8 bytes[i]) = true := by
  fun_induction asciiRunStop p bytes offset with
  | case1 offset hsize hp ih =>
    by_cases heq : offset = i
    · subst heq
      exact ⟨hsize, by simpa using hp⟩
    · exact ih (by omega) hlt
  | case2 => omega
  | case3 => omega

/-- The cursor on the last byte of the ASCII run that ends before `stop`. -/
def skipAscii (c : Cursor) (stop : Nat) {ch : Char} (hcur : c.current = .scalar ch)
    (hlt : c.index < stop)
    (ascii : ∀ i, c.index ≤ i → i < stop → ∃ h : i < c.bytes.size, c.bytes[i] < 0x80) : Cursor :=
  have hlast := ascii (stop - 1) (by omega) (by omega)
  have := hlast.1
  { c with
    current := .scalar (Char.ofUInt8 c.bytes[stop - 1])
    index := stop - 1
    position := c.position + (stop - 1 - c.index)
    newlines := c.newlines + countByte c.bytes 0x0A (c.index + 1) stop
    index_le := Nat.le_of_lt hlast.1
    position_le := by
      have := c.position_le
      omega
    current_eq := .inr (CodePoint.readAt_of_some (Utf8.charAt?_of_ascii hlast.1 hlast.2)).symm
    cache_agrees := by
      obtain ⟨hsize, hascii⟩ := ascii c.index (Nat.le_refl _) hlt
      obtain rfl : Char.ofUInt8 c.bytes[c.index] = ch := by
        have := charAt?_index_of_scalar hcur
        rw [Utf8.charAt?_of_ascii hsize hascii] at this
        exact Option.some.inj this
      have hagrees := c.cache_agrees.skipAscii (stop - 1 - c.index) fun i hle hi => by
        rw [hcur, CodePoint.utf8Size_scalar, Utf8.utf8Size_ofUInt8 hascii] at hle hi
        exact ascii i (by omega) (by omega)
      rw [hcur] at hagrees
      simp only [CodePoint.utf8Size_scalar, Utf8.utf8Size_ofUInt8 hascii,
        Utf8.utf8Size_ofUInt8 hlast.2] at hagrees ⊢
      rw [show c.position + (stop - 1 - c.index) + 1 =
          c.position + 1 + (stop - 1 - c.index) by omega,
        show stop - 1 + 1 = c.index + 1 + (stop - 1 - c.index) by omega]
      exact hagrees }

def skipAsciiWhile (p : Char → Bool) (c : Cursor) : Cursor :=
  match h : c.current with
  | .scalar _ =>
    if hlt : c.index < asciiRunStop p c.bytes c.index then
      (c.skipAscii (asciiRunStop p c.bytes c.index) h hlt fun _ hle hi =>
        let ⟨hsize, hascii, _⟩ := ascii_of_lt_asciiRunStop hle hi
        ⟨hsize, hascii⟩).advance
    else c
  | _ => c

theorem remaining_skipAscii_advance_lt (c : Cursor) (stop : Nat) {ch : Char}
    (hcur : c.current = .scalar ch) (hlt : c.index < stop)
    (ascii : ∀ i, c.index ≤ i → i < stop → ∃ h : i < c.bytes.size, c.bytes[i] < 0x80) :
    (c.skipAscii stop hcur hlt ascii).advance.remaining < c.remaining := by
  refine Nat.lt_of_lt_of_le (remaining_advance_lt rfl) ?_
  rw [remaining_of_scalar rfl, remaining_of_scalar hcur]
  simp only [skipAscii]
  omega

theorem remaining_skipAsciiWhile_le (p : Char → Bool) (c : Cursor) :
    (c.skipAsciiWhile p).remaining ≤ c.remaining := by
  unfold skipAsciiWhile
  split
  · split
    · exact Nat.le_of_lt (remaining_skipAscii_advance_lt ..)
    · exact Nat.le_refl _
  · exact Nat.le_refl _

/-! ## Lines -/

/-- The offset of the first byte from `offset` on that can begin a line terminator. -/
def terminatorByteFrom (bytes : ByteArray) (offset : Nat) : Nat :=
  if h : offset < bytes.size then
    if bytes[offset] = 0x0A || bytes[offset] = 0x0D || bytes[offset] = 0xE2 then offset
    else terminatorByteFrom bytes (offset + 1)
  else bytes.size
termination_by bytes.size - offset

theorem le_terminatorByteFrom {bytes : ByteArray} {offset : Nat} (h : offset ≤ bytes.size) :
    offset ≤ terminatorByteFrom bytes offset ∧ terminatorByteFrom bytes offset ≤ bytes.size := by
  fun_induction terminatorByteFrom bytes offset with
  | case1 => omega
  | case2 offset hlt _ ih =>
    have := ih (by omega)
    omega
  | case3 => omega

/-- The cursor at the next byte that can begin a line terminator, or at malformed bytes before it.
Everything skipped is checked to be text. -/
def skipLineText (c : Cursor) {ch : Char} (hcur : c.current = .scalar ch) : Cursor :=
  let target := Utf8.validUpTo c.bytes (terminatorByteFrom c.bytes c.nextOffset) c.nextOffset
  have hstop := le_terminatorByteFrom c.nextOffset_le
  have hle : target ≤ c.bytes.size := Nat.le_trans (Utf8.validUpTo_le hstop.1) hstop.2
  have hge : c.nextOffset ≤ target := Utf8.le_validUpTo ..
  have hnext := index_lt_nextOffset_of_scalar hcur
  let cp := CodePoint.readAt c.bytes target
  have hpos : c.position + (target - c.nextOffset) + 1 ≤ target + 1 := by
    have := c.position_le
    omega
  { c with
    current := cp
    index := target
    position := c.position + (target - c.nextOffset) + 1
    newlines := if cp.is '\n' then c.newlines + 1 else c.newlines
    cache := c.cache.clear
    index_le := hle
    position_le := hpos
    current_eq := .inr rfl
    cache_agrees := LookaheadCache.agrees_empty _ _ c.size_lt (by omega) }

theorem remaining_skipLineText_lt {c : Cursor} {ch : Char} (hcur : c.current = .scalar ch) :
    (c.skipLineText hcur).remaining < c.remaining := by
  have hnext := index_lt_nextOffset_of_scalar hcur
  have hidx := index_lt_of_scalar hcur
  have hge := Utf8.le_validUpTo c.bytes (terminatorByteFrom c.bytes c.nextOffset) c.nextOffset
  rw [remaining_of_scalar hcur]
  refine Nat.lt_of_le_of_lt (remaining_le _) ?_
  simp only [skipLineText]
  omega

/-- Steps until the current code point ends the line or the input. -/
def skipToLineEnd (c : Cursor) : Cursor :=
  match h : c.current with
  | .scalar ch =>
    have := remaining_skipLineText_lt h
    if isLineTerminator ch then c else (c.skipLineText h).skipToLineEnd
  | _ => c
termination_by c.remaining

theorem remaining_skipToLineEnd_le (c : Cursor) :
    c.skipToLineEnd.remaining ≤ c.remaining := by
  fun_induction skipToLineEnd c with
  | case1 => exact Nat.le_refl _
  | case2 c ch h hlt hterm ih => omega
  | case3 => exact Nat.le_refl _

end Cursor

end Lexis
