import Lexis.Cursor.CodePoint

/-!
# Lookahead cache

A window of decoded code points, keyed by their ordinal in the input. The entry for an ordinal
lives in the slot that the ordinal selects modulo the capacity, and evicts what was there:
`slot_put` says which slot changes, and `get?_put` what a lookup finds afterwards.
-/

namespace Lexis

/-- A decoded code point, its ordinal, and the offset behind it. -/
structure LookaheadSlot where
  ordinal : Nat
  codePoint : CodePoint
  nextOffset : Nat

/-- An unused slot holds the end of the input under the largest ordinal of 64 bits, which is behind
the end of every input. -/
def LookaheadSlot.unused : LookaheadSlot := ⟨UInt64.size - 1, .endOfInput, 0⟩

structure LookaheadCache where
  slots : Array LookaheadSlot
  size_pos : 0 < slots.size

namespace LookaheadCache

/-- A cache of unused slots; a capacity of zero is raised to one. -/
def empty (capacity : Nat) : LookaheadCache :=
  ⟨Array.replicate (max capacity 1) .unused, by rw [Array.size_replicate]; omega⟩

def capacity (cache : LookaheadCache) : Nat := cache.slots.size

theorem slot_lt (cache : LookaheadCache) (ordinal : Nat) :
    ordinal % cache.slots.size < cache.slots.size :=
  Nat.mod_lt _ cache.size_pos

def slot (cache : LookaheadCache) (ordinal : Nat) : LookaheadSlot :=
  have := cache.slot_lt ordinal
  cache.slots[ordinal % cache.slots.size]

/-- The code point with this ordinal and the offset behind it, if the cache holds them. -/
def get? (cache : LookaheadCache) (ordinal : Nat) : Option (CodePoint × Nat) :=
  let slot := cache.slot ordinal
  if slot.ordinal = ordinal then some (slot.codePoint, slot.nextOffset) else none

/-- Records a code point in place of whatever shares its slot. -/
def put (cache : LookaheadCache) (ordinal : Nat) (codePoint : CodePoint) (nextOffset : Nat) :
    LookaheadCache :=
  ⟨cache.slots.set (ordinal % cache.slots.size) ⟨ordinal, codePoint, nextOffset⟩
      (cache.slot_lt ordinal),
    by simpa using cache.size_pos⟩

def clear (cache : LookaheadCache) : LookaheadCache := empty cache.capacity

@[simp]
theorem capacity_empty (capacity : Nat) : (empty capacity).capacity = max capacity 1 := by
  simp [empty, LookaheadCache.capacity]

@[simp]
theorem capacity_put (cache : LookaheadCache) (ordinal : Nat) (codePoint : CodePoint)
    (nextOffset : Nat) : (cache.put ordinal codePoint nextOffset).capacity = cache.capacity := by
  simp [put, capacity]

theorem capacity_clear (cache : LookaheadCache) : cache.clear.capacity = cache.capacity := by
  have := cache.size_pos
  rw [clear, capacity_empty, capacity]
  omega

theorem slot_empty (capacity ordinal : Nat) : (empty capacity).slot ordinal = .unused := by
  simp only [slot, empty, Array.getElem_replicate]

/-- A put shows in the slot of its ordinal and in no other. -/
theorem slot_put (cache : LookaheadCache) (ordinal wanted : Nat) (codePoint : CodePoint)
    (nextOffset : Nat) :
    (cache.put ordinal codePoint nextOffset).slot wanted =
      if wanted % cache.capacity = ordinal % cache.capacity then ⟨ordinal, codePoint, nextOffset⟩
      else cache.slot wanted := by
  by_cases hsame : wanted % cache.slots.size = ordinal % cache.slots.size
  · simp [slot, put, capacity, hsame]
  · have hne : ¬ ordinal % cache.slots.size = wanted % cache.slots.size := fun h => hsame h.symm
    simp [slot, put, capacity, Array.getElem_set, hsame, hne]

theorem get?_eq_some_iff {cache : LookaheadCache} {ordinal : Nat} {codePoint : CodePoint}
    {nextOffset : Nat} :
    cache.get? ordinal = some (codePoint, nextOffset) ↔
      cache.slot ordinal = ⟨ordinal, codePoint, nextOffset⟩ := by
  rcases hslot : cache.slot ordinal with ⟨held, heldPoint, heldOffset⟩
  by_cases heq : held = ordinal <;> simp [get?, hslot, heq]

/-- A new entry is found under its ordinal, hides the other ordinals of its slot, and leaves the
other slots alone. -/
theorem get?_put (cache : LookaheadCache) (ordinal wanted : Nat) (codePoint : CodePoint)
    (nextOffset : Nat) :
    (cache.put ordinal codePoint nextOffset).get? wanted =
      if wanted = ordinal then some (codePoint, nextOffset)
      else if wanted % cache.capacity = ordinal % cache.capacity then none
      else cache.get? wanted := by
  simp only [get?, slot_put]
  by_cases hslot : wanted % cache.capacity = ordinal % cache.capacity
  · by_cases heq : wanted = ordinal
    · simp [heq]
    · have hne : ordinal ≠ wanted := fun h => heq h.symm
      simp [hslot, heq, hne]
  · have heq : wanted ≠ ordinal := fun h => hslot (h ▸ rfl)
    simp only [if_neg hslot, if_neg heq]

theorem get?_empty (capacity ordinal : Nat) :
    (empty capacity).get? ordinal =
      if ordinal = UInt64.size - 1 then some (.endOfInput, 0) else none := by
  simp only [get?, slot_empty, LookaheadSlot.unused]
  by_cases h : ordinal = UInt64.size - 1
  · simp [h]
  · have hne : ¬ UInt64.size - 1 = ordinal := fun heq => h heq.symm
    simp only [h, hne, if_false]

end LookaheadCache

end Lexis
