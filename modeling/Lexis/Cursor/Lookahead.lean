import Lexis.Cursor.Basic

/-!
# Looking ahead

Reading code points ahead of the current one. Distances up to the capacity of the cache are
recorded on the way. `peek_fst` says that the answer is the text's, so that the cache does not show,
unless the ordinal that is looked for overflows. Buffers are so short that no distance does this at
which there is anything to read (`not_overflows`).
-/

namespace Lexis

/-- The code point with the given ordinal, whose encoding begins at `offset`, and the offset behind
it: from the cache, or else decoded. -/
def LookaheadCache.fetch (cache : LookaheadCache) (bytes : ByteArray) (ordinal offset : Nat) :
    CodePoint × Nat :=
  match cache.get? ordinal with
  | some entry => entry
  | none =>
    let cp := CodePoint.readAt bytes offset
    (cp, offset + cp.utf8Size)

/-- Reads the code point with the given ordinal and up to `more` further ones, as long as the input
goes on; those with ordinals up to `limit` are recorded. Returns the last one read. -/
def LookaheadCache.readAhead (cache : LookaheadCache) (bytes : ByteArray) (limit : Nat) :
    (more ordinal offset : Nat) → CodePoint × LookaheadCache
  | more, ordinal, offset =>
    let (cp, next) := cache.fetch bytes ordinal offset
    let cache := if ordinal ≤ limit then cache.put ordinal cp next else cache
    match more with
    | 0 => (cp, cache)
    | more + 1 =>
      if cp.isEnd then (cp, cache) else cache.readAhead bytes limit more (ordinal + 1) next

namespace LookaheadCache

theorem Agrees.fetch {cache : LookaheadCache} {bytes : ByteArray} {first base : Nat}
    (h : cache.Agrees bytes first base) (k : Nat) :
    let entry := cache.fetch bytes (first + k)
      (base + Utf8.size ((Utf8.textFrom bytes base).take k))
    entry.1 = CodePoint.ofChar? (Utf8.textFrom bytes base)[k]? ∧
      (entry.1.isScalar = true →
        entry.2 = base + Utf8.size ((Utf8.textFrom bytes base).take (k + 1))) := by
  have hread : CodePoint.readAt bytes (base + Utf8.size ((Utf8.textFrom bytes base).take k)) =
      CodePoint.ofChar? (Utf8.textFrom bytes base)[k]? := by
    rw [CodePoint.readAt_eq_ofChar?_head?, Utf8.textFrom_add_size_take, List.getElem?_drop,
      Nat.add_zero]
  simp only [LookaheadCache.fetch]
  split
  · rename_i entry hget
    exact h k entry.1 entry.2 hget
  · refine ⟨hread, fun hg => ?_⟩
    rw [hread] at hg ⊢
    cases hk : (Utf8.textFrom bytes base)[k]? with
    | none => simp [hk, CodePoint.ofChar?, CodePoint.isScalar] at hg
    | some c =>
      rw [List.take_add_one, hk, CodePoint.ofChar?]
      simp [Nat.add_assoc]

theorem Agrees.readAhead {cache : LookaheadCache} {bytes : ByteArray} {first base : Nat}
    (h : cache.Agrees bytes first base) (limit more k : Nat) :
    let read := cache.readAhead bytes limit more (first + k)
      (base + Utf8.size ((Utf8.textFrom bytes base).take k))
    read.1 = CodePoint.ofChar? (Utf8.textFrom bytes base)[k + more]? ∧
      read.2.Agrees bytes first base := by
  induction more generalizing k cache with
  | zero =>
    have hentry := h.fetch k
    unfold LookaheadCache.readAhead
    refine ⟨hentry.1, ?_⟩
    simp only
    split
    · exact h.put hentry.1 hentry.2
    · exact h
  | succ more ih =>
    have hentry := h.fetch k
    unfold LookaheadCache.readAhead
    generalize hfetch : cache.fetch bytes (first + k) _ = entry at hentry
    obtain ⟨cp, next⟩ := entry
    have hcache : (if first + k ≤ limit then cache.put (first + k) cp next else cache).Agrees
        bytes first base := by
      split
      · exact h.put hentry.1 hentry.2
      · exact h
    simp only at hentry hcache ⊢
    cases hk : (Utf8.textFrom bytes base)[k]? with
    | none =>
      have hnone : (Utf8.textFrom bytes base)[k + (more + 1)]? = none := by
        rw [List.getElem?_eq_none_iff] at hk ⊢
        omega
      rw [hk] at hentry
      rw [hnone, hentry.1]
      simp only [CodePoint.ofChar?, CodePoint.isEnd]
      rw [hentry.1] at hcache
      exact ⟨rfl, hcache⟩
    | some c =>
      rw [hk] at hentry
      obtain rfl : cp = .scalar c := hentry.1
      obtain rfl := hentry.2 rfl
      rw [show k + (more + 1) = k + 1 + more by omega]
      exact ih hcache (k + 1)

end LookaheadCache

namespace Cursor

/-- Reads the next code point and up to `more` further ones, recording those within reach of the
cache. -/
def readAhead (c : Cursor) (more : Nat) : CodePoint × LookaheadCache :=
  c.cache.readAhead c.bytes (c.position + c.cache.capacity) more (c.position + 1) c.nextOffset

theorem readAhead_spec (c : Cursor) (more : Nat) :
    (c.readAhead more).1 = CodePoint.ofChar? c.upcoming[more]? ∧
      (c.readAhead more).2.Agrees c.bytes (c.position + 1) c.nextOffset := by
  simpa [readAhead, upcoming, nextOffset] using
    c.cache_agrees.readAhead (c.position + c.cache.capacity) more 0

/-- The ordinal `n` places ahead. Ordinals have 64 bits, and wrap around. -/
def ordinalAhead (c : Cursor) (n : Nat) : Nat := (c.position + n) % UInt64.size

/-- The code point `n` places ahead, the current one for `n = 0`, and the cursor with its cache
filled. Behind the end there is nothing but the end. Nothing is read for an ordinal that has wrapped
around: if the cache does not know it, the answer is the current code point. -/
def peek (c : Cursor) (n : Nat) : CodePoint × Cursor :=
  if n = 0 || c.isEnd then (c.current, c) else
    match c.cache.get? (c.ordinalAhead n) with
    | some (cp, _) => (cp, c)
    | none =>
      match c.ordinalAhead n - c.position with
      | 0 => (c.current, c)
      | more + 1 =>
        let read := c.readAhead more
        (read.1, { c with cache := read.2, cache_agrees := (c.readAhead_spec more).2 })

/-- Looking ahead leaves everything but the cache alone. -/
theorem peek_snd (c : Cursor) (n : Nat) :
    (c.peek n).2.bytes = c.bytes ∧ (c.peek n).2.current = c.current ∧
      (c.peek n).2.index = c.index ∧ (c.peek n).2.position = c.position ∧
      (c.peek n).2.newlines = c.newlines := by
  unfold peek
  split
  · exact ⟨rfl, rfl, rfl, rfl, rfl⟩
  · split
    · exact ⟨rfl, rfl, rfl, rfl, rfl⟩
    · split <;> exact ⟨rfl, rfl, rfl, rfl, rfl⟩

@[simp]
theorem bytes_peek (c : Cursor) (n : Nat) : (c.peek n).2.bytes = c.bytes := (c.peek_snd n).1

@[simp]
theorem current_peek (c : Cursor) (n : Nat) : (c.peek n).2.current = c.current := (c.peek_snd n).2.1

@[simp]
theorem index_peek (c : Cursor) (n : Nat) : (c.peek n).2.index = c.index := (c.peek_snd n).2.2.1

@[simp]
theorem remaining_peek (c : Cursor) (n : Nat) : (c.peek n).2.remaining = c.remaining := by
  simp [remaining]

@[simp]
theorem upcoming_peek (c : Cursor) (n : Nat) : (c.peek n).2.upcoming = c.upcoming := by
  simp [upcoming, nextOffset]

theorem remaining_skip_peek_lt {c : Cursor} {ch : Char} (h : c.current = .scalar ch)
    (n steps : Nat) : ((c.peek n).2.advanceBy (steps + 1)).remaining < c.remaining := by
  have hcur : (c.peek n).2.current = .scalar ch := (c.current_peek n).trans h
  have hlt := remaining_advance_lt hcur
  have hle := (c.peek n).2.advance.remaining_advanceBy_le steps
  rw [remaining_peek] at hlt
  exact Nat.lt_of_le_of_lt hle hlt

theorem upcoming_of_end {c : Cursor} (h : c.current = .endOfInput) : c.upcoming = [] := by
  have hread : CodePoint.readAt c.bytes c.nextOffset = .endOfInput := by
    rcases c.current_eq with ⟨hcur, _⟩ | hcur
    · simp [hcur] at h
    · rw [nextOffset, h, CodePoint.utf8Size_endOfInput, Nat.add_zero, ← hcur, h]
  cases hc : Utf8.charAt? c.bytes c.nextOffset with
  | none => exact Utf8.textFrom_of_none hc
  | some d => simp [CodePoint.readAt_of_some hc] at hread

/-- The ordinal that is looked for at this distance does not fit into 64 bits. At the end of the
input none is looked for. -/
def Overflows (c : Cursor) (n : Nat) : Prop :=
  c.isEnd = false ∧ UInt64.size ≤ c.position + n

theorem position_le_size (c : Cursor) : c.position ≤ UInt32.size := by
  have hposition := c.position_le
  have hindex := c.index_le
  have hsize := c.size_lt
  omega

/-- No distance within 4 GiB takes an ordinal past 64 bits. -/
theorem not_overflows (c : Cursor) {n : Nat} (h : n ≤ UInt32.size) : ¬ c.Overflows n := by
  have hsmall : 2 * UInt32.size < UInt64.size := by decide
  have hposition := c.position_le_size
  rintro ⟨-, hsum⟩
  omega

/-- A step, and one more behind a sign, is such a distance. -/
theorem one_add_toNat_le (sign : Bool) : 1 + sign.toNat ≤ UInt32.size :=
  Nat.le_trans (Nat.add_le_add_left (Bool.toNat_le sign) 1) (by decide)

theorem peek_fst (c : Cursor) {n : Nat} (h : ¬ c.Overflows (n + 1)) :
    (c.peek (n + 1)).1 = CodePoint.ofChar? c.upcoming[n]? := by
  unfold peek
  split
  · rename_i hend
    have hcur : c.current = .endOfInput := by
      cases hc : c.current <;> simp [isEnd, hc, CodePoint.isEnd] at hend ⊢
    simp [upcoming_of_end hcur, hcur, CodePoint.ofChar?]
  · rename_i hnot
    have hend : c.isEnd = false := by simpa using hnot
    have htarget : c.ordinalAhead (n + 1) = c.position + (n + 1) :=
      Nat.mod_eq_of_lt (Nat.lt_of_not_le fun hsum => h ⟨hend, hsum⟩)
    rw [htarget, Nat.add_sub_cancel_left]
    split
    · rename_i cp next hget
      rw [show c.position + (n + 1) = c.position + 1 + n by omega] at hget
      exact (c.cache_agrees n cp next hget).1
    · exact (c.readAhead_spec n).1

theorem length_upcoming_lt (c : Cursor) : c.upcoming.length < UInt32.size :=
  Nat.lt_of_le_of_lt (Utf8.length_textFrom_le c.bytes c.nextOffset) c.size_lt

/-- Behind a code point that is seen ahead there is another place within reach. -/
theorem lt_of_is_peek {c : Cursor} {n : Nat} {ch : Char} (hn : n ≤ UInt32.size)
    (h : (c.peek n).1.is ch = true) : n < UInt32.size := by
  cases n with
  | zero => decide
  | succ n =>
    rw [c.peek_fst (c.not_overflows hn)] at h
    cases hget : c.upcoming[n]? with
    | none => simp [hget, CodePoint.ofChar?, CodePoint.is] at h
    | some d =>
      obtain ⟨hlt, -⟩ := List.getElem?_eq_some_iff.1 hget
      have hlength := c.length_upcoming_lt
      omega

/-- The next `n` code points ahead, fewer at the end of the input. -/
def lookahead (c : Cursor) (n : Nat) : List Char × Cursor :=
  collect n 1 c
where
  /-- The code points from the given distance on. -/
  collect : Nat → Nat → Cursor → List Char × Cursor
    | 0, _, c => ([], c)
    | n + 1, distance, c =>
      let (cp, c) := c.peek distance
      match cp with
      | .scalar ch =>
        let (chars, c) := collect n (distance + 1) c
        (ch :: chars, c)
      | _ => ([], c)

/-- Whether the code points ahead, from the given distance on, begin with `text`. -/
def isFollowedBy (c : Cursor) : (text : List Char) → (distance : Nat) → Bool × Cursor
  | [], _ => (true, c)
  | ch :: text, distance =>
    let (cp, c) := c.peek distance
    if cp.is ch then c.isFollowedBy text (distance + 1) else (false, c)

/-- Whether the text from the current code point on begins with `text`. -/
def startsWith (c : Cursor) : (text : List Char) → Bool × Cursor
  | [] => (true, c)
  | ch :: text => if c.current.is ch then c.isFollowedBy text 1 else (false, c)

theorem isFollowedBy_snd (c : Cursor) (text : List Char) (distance : Nat) :
    let c' := (c.isFollowedBy text distance).2
    c'.bytes = c.bytes ∧ c'.current = c.current ∧ c'.index = c.index := by
  induction text generalizing c distance with
  | nil => exact ⟨rfl, rfl, rfl⟩
  | cons ch text ih =>
    simp only [isFollowedBy]
    split
    · have := ih (c.peek distance).2 (distance + 1)
      simpa using this
    · simp

theorem lookahead_collect_snd (c : Cursor) (n distance : Nat) :
    let c' := (lookahead.collect n distance c).2
    c'.bytes = c.bytes ∧ c'.current = c.current ∧ c'.index = c.index := by
  induction n generalizing c distance with
  | zero => exact ⟨rfl, rfl, rfl⟩
  | succ n ih =>
    simp only [lookahead.collect]
    split
    · have := ih (c.peek distance).2 (distance + 1)
      simpa using this
    · simp

theorem upcoming_lookahead (c : Cursor) (n : Nat) : (c.lookahead n).2.upcoming = c.upcoming := by
  obtain ⟨hbytes, hcur, hidx⟩ := c.lookahead_collect_snd n 1
  simp only [upcoming, nextOffset, lookahead, hbytes, hcur, hidx]

theorem lookahead_collect_fst (c : Cursor) (n : Nat) {distance : Nat}
    (h : distance ≤ c.upcoming.length) :
    (lookahead.collect n (distance + 1) c).1 = (c.upcoming.drop distance).take n := by
  induction n generalizing c distance with
  | zero => simp [lookahead.collect]
  | succ n ih =>
    have hlength := c.length_upcoming_lt
    have hpeek := c.peek_fst (c.not_overflows (show distance + 1 ≤ UInt32.size by omega))
    simp only [lookahead.collect]
    cases hget : c.upcoming[distance]? with
    | none =>
      rw [hget] at hpeek
      rw [List.getElem?_eq_none_iff] at hget
      simp [hpeek, CodePoint.ofChar?, List.drop_eq_nil_of_le hget]
    | some ch =>
      rw [hget] at hpeek
      obtain ⟨hlt, hch⟩ := List.getElem?_eq_some_iff.1 hget
      rw [hpeek]
      simp only [CodePoint.ofChar?]
      rw [ih _ (by rw [upcoming_peek]; exact hlt), upcoming_peek, List.drop_eq_getElem_cons hlt, hch,
        List.take_succ_cons]

theorem lookahead_fst (c : Cursor) (n : Nat) : (c.lookahead n).1 = c.upcoming.take n := by
  simpa [lookahead] using c.lookahead_collect_fst n (Nat.zero_le _)

theorem remaining_isFollowedBy (c : Cursor) (text : List Char) (distance : Nat) :
    (c.isFollowedBy text distance).2.remaining = c.remaining := by
  obtain ⟨hbytes, hcur, hidx⟩ := c.isFollowedBy_snd text distance
  simp only [remaining, hbytes, hcur, hidx]

theorem remaining_lookahead (c : Cursor) (n : Nat) :
    (c.lookahead n).2.remaining = c.remaining := by
  obtain ⟨hbytes, hcur, hidx⟩ := c.lookahead_collect_snd n 1
  simp only [remaining, lookahead, hbytes, hcur, hidx]

theorem remaining_startsWith (c : Cursor) (text : List Char) :
    (c.startsWith text).2.remaining = c.remaining := by
  cases text with
  | nil => rfl
  | cons ch text =>
    simp only [startsWith]
    split
    · exact c.remaining_isFollowedBy text 1
    · rfl

theorem current_lookahead (c : Cursor) (n : Nat) : (c.lookahead n).2.current = c.current :=
  (c.lookahead_collect_snd n 1).2.1

theorem current_isFollowedBy (c : Cursor) (text : List Char) (distance : Nat) :
    (c.isFollowedBy text distance).2.current = c.current :=
  (c.isFollowedBy_snd text distance).2.1

theorem current_startsWith (c : Cursor) (text : List Char) :
    (c.startsWith text).2.current = c.current := by
  cases text with
  | nil => rfl
  | cons ch text =>
    simp only [startsWith]
    split
    · exact c.current_isFollowedBy text 1
    · rfl

theorem current_of_startsWith {c : Cursor} {ch : Char} {text : List Char}
    (h : (c.startsWith (ch :: text)).1 = true) :
    (c.startsWith (ch :: text)).2.current = .scalar ch := by
  rw [current_startsWith]
  simp only [startsWith] at h
  split at h
  · rename_i his
    exact eq_of_beq his
  · cases h

end Cursor

end Lexis
