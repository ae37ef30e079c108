import Mathlib.Data.List.DropRight
import Lexis.Cursor.LookaheadCache

/-!
# What a cache holds

Whatever is put into a cache and cleared, and in whatever order, each slot holds the newest entry
that has been put there since the last clear (`Holds`, `holds_run`). A lookup therefore finds what
has been put under its ordinal as long as nothing newer has the same slot
(`get?_run_eq_some_iff`). Slots without an entry are told from others by their ordinal alone, so
that a lookup of that ordinal takes them for entries.
-/

namespace Lexis

namespace LookaheadCache

/-- What the user of a cache asks of it between lookups. -/
inductive Call where
  | put (ordinal : Nat) (codePoint : CodePoint) (nextOffset : Nat)
  | clear

def Call.entered? : Call → Option LookaheadSlot
  | .put ordinal codePoint nextOffset => some ⟨ordinal, codePoint, nextOffset⟩
  | .clear => none

/-- The cache behind a call. -/
def call (cache : LookaheadCache) : Call → LookaheadCache
  | .put ordinal codePoint nextOffset => cache.put ordinal codePoint nextOffset
  | .clear => cache.clear

/-- The cache behind calls one after another. -/
def run (cache : LookaheadCache) (calls : List Call) : LookaheadCache := calls.foldl call cache

/-- What has been put since the last clear. -/
def entries (calls : List Call) : List LookaheadSlot :=
  (calls.rtakeWhile (·.entered?.isSome)).filterMap Call.entered?

/-- The last of the entries since the last clear whose ordinals are congruent to this one. -/
def newest? (capacity ordinal : Nat) (calls : List Call) : Option LookaheadSlot :=
  ((entries calls).filter (·.ordinal % capacity = ordinal % capacity)).getLast?

/-! ## Entries -/

theorem entries_concat_put (calls : List Call) (ordinal : Nat) (codePoint : CodePoint)
    (nextOffset : Nat) :
    entries (calls ++ [.put ordinal codePoint nextOffset]) =
      entries calls ++ [⟨ordinal, codePoint, nextOffset⟩] := by
  rw [entries, List.rtakeWhile_concat_pos _ _ _ rfl, List.filterMap_append]
  rfl

theorem entries_concat_clear (calls : List Call) : entries (calls ++ [.clear]) = [] := by
  rw [entries, List.rtakeWhile_concat_neg _ _ _ Bool.false_ne_true]
  rfl

theorem newest?_concat_put (capacity wanted : Nat) (calls : List Call) (ordinal : Nat)
    (codePoint : CodePoint) (nextOffset : Nat) :
    newest? capacity wanted (calls ++ [.put ordinal codePoint nextOffset]) =
      if wanted % capacity = ordinal % capacity then some ⟨ordinal, codePoint, nextOffset⟩
      else newest? capacity wanted calls := by
  rw [newest?, entries_concat_put, List.filter_append, List.filter_singleton]
  by_cases hsame : ordinal % capacity = wanted % capacity
  · simp [hsame]
  · simp [hsame, Ne.symm hsame, newest?]

theorem newest?_concat_clear (capacity ordinal : Nat) (calls : List Call) :
    newest? capacity ordinal (calls ++ [.clear]) = none := by
  rw [newest?, entries_concat_clear]
  rfl

/-! ## Calls -/

variable {cache : LookaheadCache} {calls : List Call}

/-- Each slot holds the newest of the entries that belong there, and is unused if there is none. -/
def Holds (cache : LookaheadCache) (calls : List Call) : Prop :=
  ∀ ordinal, cache.slot ordinal = (newest? cache.capacity ordinal calls).getD .unused

theorem holds_empty (capacity : Nat) : (empty capacity).Holds [] :=
  slot_empty capacity

theorem Holds.put (h : cache.Holds calls) (ordinal : Nat) (codePoint : CodePoint)
    (nextOffset : Nat) :
    (cache.put ordinal codePoint nextOffset).Holds
      (calls ++ [.put ordinal codePoint nextOffset]) := by
  intro wanted
  rw [slot_put, capacity_put, newest?_concat_put, h wanted]
  split <;> rfl

theorem holds_clear (cache : LookaheadCache) (calls : List Call) :
    cache.clear.Holds (calls ++ [.clear]) := by
  intro ordinal
  rw [newest?_concat_clear, clear, slot_empty, Option.getD_none]

theorem Holds.call (h : cache.Holds calls) (next : Call) :
    (cache.call next).Holds (calls ++ [next]) := by
  cases next with
  | put ordinal codePoint nextOffset => exact h.put ordinal codePoint nextOffset
  | clear => exact holds_clear cache calls

theorem capacity_call (cache : LookaheadCache) (next : Call) :
    (cache.call next).capacity = cache.capacity := by
  cases next with
  | put ordinal codePoint nextOffset => exact cache.capacity_put ordinal codePoint nextOffset
  | clear => exact cache.capacity_clear

theorem holds_run (capacity : Nat) (calls : List Call) :
    ((empty capacity).run calls).Holds calls := by
  induction calls using List.reverseRecOn with
  | nil => exact holds_empty capacity
  | append_singleton calls last ih =>
    rw [run, List.foldl_concat]
    exact ih.call last

theorem capacity_run (cache : LookaheadCache) (calls : List Call) :
    (cache.run calls).capacity = cache.capacity := by
  induction calls generalizing cache with
  | nil => rfl
  | cons next calls ih => exact (ih (cache.call next)).trans (cache.capacity_call next)

/-! ## Lookups -/

/-- After any calls, a lookup finds a code point and an offset if and only if they have been put
under its ordinal since the last clear, and nothing has been put since then under an ordinal that
is congruent to it modulo the capacity. The one exception is the largest ordinal of 64 bits, under
which unused slots hold the end of the input: it finds that while its slot is unused. -/
theorem get?_run_eq_some_iff (capacity : Nat) (calls : List Call) (ordinal : Nat)
    (codePoint : CodePoint) (nextOffset : Nat) :
    ((empty capacity).run calls).get? ordinal = some (codePoint, nextOffset) ↔
      newest? (max capacity 1) ordinal calls = some ⟨ordinal, codePoint, nextOffset⟩ ∨
        (newest? (max capacity 1) ordinal calls = none ∧ ordinal = UInt64.size - 1 ∧
          codePoint = .endOfInput ∧ nextOffset = 0) := by
  have hholds := holds_run capacity calls ordinal
  rw [capacity_run, capacity_empty] at hholds
  rw [get?_eq_some_iff, hholds]
  cases newest? (max capacity 1) ordinal calls with
  | some entry => simp
  | none => simp [LookaheadSlot.unused, eq_comm]

/-- Of two entries for one slot, the newer one is found. -/
example : ((empty 3).run [.put 1 (.scalar 'a') 1, .put 4 (.scalar 'b') 2]).get? 1 = none ∧
    ((empty 3).run [.put 1 (.scalar 'a') 1, .put 4 (.scalar 'b') 2]).get? 4 =
      some (.scalar 'b', 2) := by
  decide

/-- Nothing is left in a cleared cache, and yet the ordinal of its unused slots is found there. -/
theorem not_misses_cleared :
    let calls : List Call := [.put 1 (.scalar 'a') 1, .clear]
    newest? 2 (UInt64.size - 1) calls = none ∧
      ((empty 2).run calls).get? (UInt64.size - 1) = some (.endOfInput, 0) := by
  decide

end LookaheadCache

end Lexis
