import Lexis.Cursor.LookaheadCache

/-!
# Agreement of a cache with its buffer

What a lookahead cache holds has to be what decoding would give. `LookaheadCache.Agrees` says so
for the text that begins at an offset; it holds of a cache without entries, survives the recording
of a decoded code point, and survives steps.
-/

namespace Lexis

/-- The entries for the ordinals from `first` on tell what the text that begins at `offset`
holds. -/
def LookaheadCache.Agrees (cache : LookaheadCache) (bytes : ByteArray) (first offset : Nat) :
    Prop :=
  ∀ k cp next, cache.get? (first + k) = some (cp, next) →
    cp = CodePoint.ofChar? (Utf8.textFrom bytes offset)[k]? ∧
      (cp.isScalar = true → next = offset + Utf8.size ((Utf8.textFrom bytes offset).take (k + 1)))

namespace LookaheadCache

theorem agrees_empty {bytes : ByteArray} (capacity : Nat) {first : Nat} (offset : Nat)
    (hsize : bytes.size < UInt32.size) (hfirst : first ≤ bytes.size + 2) :
    (empty capacity).Agrees bytes first offset := by
  intro k cp next h
  rw [get?_empty] at h
  split at h
  · rename_i hlast
    have hlen := Utf8.length_textFrom_le bytes offset
    have hsmall : 2 * UInt32.size + 2 < UInt64.size := by decide
    obtain ⟨rfl, rfl⟩ : CodePoint.endOfInput = cp ∧ 0 = next := by simpa using h
    have hk : (Utf8.textFrom bytes offset).length ≤ k := by omega
    simp [List.getElem?_eq_none hk, CodePoint.ofChar?, CodePoint.isScalar]
  · cases h

theorem Agrees.put {cache : LookaheadCache} {bytes : ByteArray} {first offset : Nat}
    (h : cache.Agrees bytes first offset) {k : Nat} {cp : CodePoint} {next : Nat}
    (hcp : cp = CodePoint.ofChar? (Utf8.textFrom bytes offset)[k]?)
    (hnext : cp.isScalar = true →
      next = offset + Utf8.size ((Utf8.textFrom bytes offset).take (k + 1))) :
    (cache.put (first + k) cp next).Agrees bytes first offset := by
  intro j cp' next' hget
  rw [get?_put] at hget
  split at hget
  · rename_i heq
    obtain rfl : j = k := by omega
    obtain ⟨rfl, rfl⟩ : cp = cp' ∧ next = next' := by simpa using hget
    exact ⟨hcp, hnext⟩
  · split at hget
    · cases hget
    · exact h j cp' next' hget

/-- Behind the first code point of the text, the cache agrees with the rest of it. -/
theorem Agrees.tail {cache : LookaheadCache} {bytes : ByteArray} {first offset : Nat}
    (h : cache.Agrees bytes first offset) :
    cache.Agrees bytes (first + 1) (offset + (CodePoint.readAt bytes offset).utf8Size) := by
  intro k cp next hget
  have hget' : cache.get? (first + (k + 1)) = some (cp, next) := by
    rw [← hget]
    congr 1
    omega
  obtain ⟨hcp, hnext⟩ := h (k + 1) cp next hget'
  cases hc : Utf8.charAt? bytes offset with
  | none =>
    simp only [CodePoint.readAt_of_none hc, CodePoint.utf8Size_endOfInput, Nat.add_zero]
    simp only [Utf8.textFrom_of_none hc] at hcp ⊢
    simp [hcp, CodePoint.ofChar?, CodePoint.isScalar]
  | some c =>
    simp only [CodePoint.readAt_of_some hc, CodePoint.utf8Size_scalar]
    simp only [Utf8.textFrom_of_some hc] at hcp hnext
    refine ⟨by simpa using hcp, fun hg => ?_⟩
    have := hnext hg
    simp only [List.take_succ_cons, Utf8.size_cons] at this ⊢
    omega

/-- Over ASCII bytes, a cache agrees with the text behind each of them. -/
theorem Agrees.skipAscii {cache : LookaheadCache} {bytes : ByteArray}
    {first offset : Nat} (h : cache.Agrees bytes first offset) (n : Nat)
    (ascii : ∀ i, offset ≤ i → i < offset + n → ∃ h : i < bytes.size, bytes[i] < 0x80) :
    cache.Agrees bytes (first + n) (offset + n) := by
  induction n with
  | zero => exact h
  | succ n ih =>
    obtain ⟨hsize, hascii⟩ := ascii (offset + n) (by omega) (by omega)
    have htail := (ih fun i hle hlt => ascii i hle (by omega)).tail
    rw [CodePoint.readAt_of_some (Utf8.charAt?_of_ascii hsize hascii), CodePoint.utf8Size_scalar,
      Utf8.utf8Size_ofUInt8 hascii] at htail
    exact htail

end LookaheadCache

end Lexis
