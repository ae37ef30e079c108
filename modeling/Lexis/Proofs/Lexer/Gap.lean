import Lexis.Proofs.Scanner.Token

/-!
# Gaps between tokens

What lies between the end of a token and the beginning of the next one: whitespace, and comments
unless they are kept as tokens.
-/

namespace Lexis

open CharClass

/-- A scan that begins at the first offset finds a comment that ends at the second. -/
def CommentAt (bytes : ByteArray) (start stop : Nat) : Prop :=
  ∃ c ch lexeme c', c.bytes = bytes ∧ c.index = start ∧ c.current = .scalar ch ∧
    Lexer.scanAt c ch = .ok lexeme c' ∧ lexeme.kind.isComment = true ∧ c'.index = stop

inductive Gap (bytes : ByteArray) (keepComments : Bool) : Nat → Nat → Prop
  | refl (offset : Nat) : Gap bytes keepComments offset offset
  | whitespace {start stop : Nat} {ch : Char} (hch : Utf8.charAt? bytes start = some ch)
      (hblank : isWhitespace ch = true) (hrest : Gap bytes keepComments (start + ch.utf8Size) stop) :
      Gap bytes keepComments start stop
  | comment {start middle stop : Nat} (hkeep : keepComments = false)
      (hcomment : CommentAt bytes start middle) (hrest : Gap bytes keepComments middle stop) :
      Gap bytes keepComments start stop

/-- Whitespace alone. -/
def Blank (bytes : ByteArray) (start stop : Nat) : Prop :=
  ∃ text, Utf8.Spells bytes start stop text ∧ ∀ ch ∈ text, isWhitespace ch = true

theorem CommentAt.spells {bytes : ByteArray} {start stop : Nat} (h : CommentAt bytes start stop) :
    ∃ text, Utf8.Spells bytes start stop text := by
  obtain ⟨c, ch, lexeme, c', rfl, rfl, hcur, hscan, -, rfl⟩ := h
  obtain ⟨⟨passed, -, hpassed⟩, -⟩ := Lexer.scanAt_ok hcur hscan
  exact ⟨passed, hpassed.spells⟩

namespace Gap

variable {bytes : ByteArray} {keepComments : Bool} {start middle stop : Nat}

theorem append (h : Gap bytes keepComments start middle) (h' : Gap bytes keepComments middle stop) :
    Gap bytes keepComments start stop := by
  induction h with
  | refl => exact h'
  | whitespace hch hblank _ ih => exact .whitespace hch hblank (ih h')
  | comment hkeep hcomment _ ih => exact .comment hkeep hcomment (ih h')

theorem of_spells {text : List Char} (h : Utf8.Spells bytes start stop text)
    (hblank : ∀ ch ∈ text, isWhitespace ch = true) : Gap bytes keepComments start stop := by
  induction text generalizing start with
  | nil =>
    rw [show stop = start by simpa using h.stop_eq]
    exact .refl start
  | cons ch text ih =>
    obtain ⟨hch, hrest⟩ := Utf8.Spells.cons_iff.1 h
    rw [List.forall_mem_cons] at hblank
    exact .whitespace hch hblank.1 (ih hrest hblank.2)

theorem spells (h : Gap bytes keepComments start stop) (hstart : start ≤ bytes.size) :
    ∃ text, Utf8.Spells bytes start stop text := by
  induction h with
  | refl offset => exact ⟨[], .refl hstart⟩
  | whitespace hch hblank _ ih =>
    obtain ⟨text, htext⟩ := ih (Utf8.le_size_of_charAt? hch)
    exact ⟨_, Utf8.Spells.cons_iff.2 ⟨hch, htext⟩⟩
  | comment hkeep hcomment _ ih =>
    obtain ⟨before, hbefore⟩ := hcomment.spells
    obtain ⟨text, htext⟩ := ih hbefore.stop_le
    exact ⟨_, hbefore.append htext⟩

theorem le (h : Gap bytes keepComments start stop) (hstart : start ≤ bytes.size) :
    start ≤ stop := by
  obtain ⟨text, htext⟩ := h.spells hstart
  exact htext.start_le

/-- Where comments are tokens, only whitespace is left between them. -/
theorem blank (h : Gap bytes true start stop) (hstart : start ≤ bytes.size) :
    Blank bytes start stop := by
  generalize hkeep : true = keepComments at h
  induction h with
  | refl offset => exact ⟨[], .refl hstart, List.forall_mem_nil _⟩
  | whitespace hch hblank _ ih =>
    obtain ⟨text, htext, hall⟩ := ih (Utf8.le_size_of_charAt? hch)
    refine ⟨_, Utf8.Spells.cons_iff.2 ⟨hch, htext⟩, ?_⟩
    rw [List.forall_mem_cons]
    exact ⟨hblank, hall⟩
  | comment hskip => rw [← hkeep] at hskip; cases hskip

end Gap

/-! ## Whitespace is skipped -/

theorem Lexer.passes_skipWhitespace (newline : Bool) {c : Cursor} (h : c.Started) :
    ∃ text, c.Passes text (Lexer.skipWhitespace newline c).2 ∧
      ∀ ch ∈ text, isWhitespace ch = true := by
  fun_induction Lexer.skipWhitespace newline c with
  | case1 newline c ch hcur hlt _ hblank ih =>
    have hstep := Cursor.passes_advance hcur
    have hrun := Cursor.passes_skipAsciiWhile (fun ch => ch == ' ' || ch == '\t') hstep.started
    obtain ⟨text, htext, hall⟩ := ih hrun.started
    have hspace : ∀ d, d = ' ' ∨ d = '\t' → isWhitespace d = true := by
      rintro d (rfl | rfl) <;> rfl
    refine ⟨_, (hstep.trans hrun).trans htext, ?_⟩
    intro d hmem
    rw [List.mem_append, List.mem_append, List.mem_singleton] at hmem
    rcases hmem with (rfl | hmem) | hmem
    · exact hspace d (by simpa using hblank)
    · have hclass := List.all_eq_true.1 List.all_takeWhile d hmem
      exact hspace d (by simpa using (Bool.and_eq_true_iff.1 hclass).2)
    · exact hall d hmem
  | case2 newline c ch hcur hlt _ hblank hspace ih =>
    have hstep := Cursor.passes_advance hcur
    obtain ⟨text, htext, hall⟩ := ih hstep.started
    refine ⟨_, hstep.trans htext, ?_⟩
    rw [List.singleton_append, List.forall_mem_cons]
    exact ⟨hspace, hall⟩
  | case3 newline c ch hcur hlt _ hblank hspace => exact ⟨[], .refl h, List.forall_mem_nil _⟩
  | case4 newline c hnot => exact ⟨[], .refl h, List.forall_mem_nil _⟩

end Lexis
