import Lexis.Proofs.Beside.Calls
import Lexis.Proofs.Lexer.Following
import Lexis.Proofs.Lexer.Origin

/-!
# Inside an interpolation

Code that closes no brace but its own is read inside an interpolation as it is read alone: what it
opens lies on top of what is open already, and none of its braces ends the interpolation around it
(`Follows.inside`).
-/

namespace Lexis

/-! ## Braces -/

/-- The number of braces that are open behind the token, where `n` are open before it. A brace that
is not open cannot be closed. -/
def Token.depthAfter? (n : Nat) (t : Token) : Option Nat :=
  match t.kind with
  | .operator .openBrace => some (n + 1)
  | .operator .closeBrace => if n = 0 then none else some (n - 1)
  | _ => some n

/-- The tokens close every brace that they open, and no other. -/
def Balanced (tokens : List Token) : Prop := tokens.foldlM Token.depthAfter? 0 = some 0

instance (tokens : List Token) : Decidable (Balanced tokens) :=
  inferInstanceAs (Decidable (tokens.foldlM Token.depthAfter? 0 = some 0))

namespace Interpolations

variable {s : Interpolations} {t : Token} {n : Nat}

/-- The interpolations inside another one, in which `n` braces are open. -/
def inside (s : Interpolations) (n : Nat) : Interpolations := ⟨s.openBraces ++ [n]⟩

/-- The number of braces that are open in all interpolations together. -/
def depth (s : Interpolations) : Nat := s.openBraces.foldr (· + ·) 0

/-- A brace that the outer interpolation has not opened ends an inner one or none. -/
theorem endsAt_inside (h : t.kind = .operator .closeBrace → s.openBraces = [] → n ≠ 0) :
    (s.inside n).endsAt t = s.endsAt t := by
  rw [Bool.eq_iff_iff, endsAt_iff, endsAt_iff, and_congr_right_iff]
  intro hbrace
  obtain ⟨counts⟩ := s
  cases counts with
  | nil => simpa [inside] using h hbrace rfl
  | cons count counts => rfl

/-- A token changes the inner interpolations, or the count of the outer one. -/
theorem exists_after_inside (h : t.kind = .templateTail → s.openBraces ≠ []) (n : Nat) :
    ∃ n', (s.inside n).after t = (s.after t).inside n' := by
  obtain ⟨counts⟩ := s
  cases counts with
  | nil =>
    have htail : t.kind ≠ .templateTail := fun hkind => h hkind rfl
    unfold after inside
    split <;> simp_all
  | cons count counts =>
    refine ⟨n, ?_⟩
    unfold after inside
    split <;> simp_all

theorem depth_cons (count : Nat) (counts : List Nat) :
    depth ⟨count :: counts⟩ = count + depth ⟨counts⟩ := rfl

/-- If nothing is open inside the outer interpolation, the next brace ends that. -/
theorem inside_eq_of_depth (h : s.openBraces = []) (hdepth : (s.inside n).depth = 0) :
    s.inside n = ⟨[0]⟩ := by
  obtain ⟨counts⟩ := s
  obtain rfl : counts = [] := h
  obtain rfl : n = 0 := hdepth
  rfl

/-- Where an interpolation is open, the braces that are open are counted right. -/
theorem depthAfter?_depth (hopen : s.openBraces ≠ []) (hbrace : s.endsAt t = false)
    (htail : t.kind = .templateTail → s.openBraces.head? = some 0) :
    t.depthAfter? s.depth = some (s.after t).depth := by
  have hends : t.kind = .operator .closeBrace → s.openBraces.head? ≠ some 0 := by
    intro hkind hhead
    rw [endsAt_iff.2 ⟨hkind, hhead⟩] at hbrace
    cases hbrace
  obtain ⟨counts⟩ := s
  cases counts with
  | nil => exact absurd rfl hopen
  | cons count counts =>
    rw [depth_cons]
    unfold Token.depthAfter? after
    cases hkind : t.kind with
    | templateHead => rw [depth_cons, depth_cons, Nat.zero_add]
    | templateTail =>
      obtain rfl : count = 0 := by simpa using htail hkind
      rw [Nat.zero_add]
    | operator op =>
      cases op with
      | openBrace => rw [depth_cons, Nat.add_right_comm]
      | closeBrace =>
        have hcount : count ≠ 0 := by simpa using hends hkind
        rw [depth_cons, if_neg (by omega), Nat.sub_add_comm (by omega)]
      | _ => rfl
    | _ => rfl

end Interpolations

namespace Lexer

variable {k n d : Nat} {y gap u : List Char} {l l' l₁ m : Lexer} {s s₁ : Interpolations}
  {t : Token} {tokens : List Token}

/-! ## Inside an interpolation -/

/-- Only a brace can be replaced by the end of a template. -/
theorem kind_scan_ne (h : l.scan.1 = .ok t) : t.kind ≠ .templateTail := by
  fun_induction scan l with
  | case1 => cases h
  | case2 l newline c hskip ch hcur lexeme c' hscan hlt hcomment ih => exact ih h
  | case3 l newline c hskip ch hcur lexeme c' hscan hlt hcomment =>
    cases h
    intro hkind
    have hmakes := makes_of_scanAt hscan
    have htail : lexeme.kind = .templateTail := hkind
    rw [htail] at hmakes
    cases hopening : Opening.of ch (c.lookahead 3).1 <;> rw [hopening] at hmakes <;>
      simp [Opening.Makes, Scanner.IsNumberKind] at hmakes
  | case4 =>
    cases h
    intro hkind
    cases hkind

/-- A token that has been found closes an interpolation only where one is open that has no brace
left open. -/
theorem Finds.head?_of_templateTail (h : l.Finds s t l') (hphase : l.phase = .scanning)
    (hkind : t.kind = .templateTail) : s.openBraces.head? = some 0 := by
  cases h with
  | next hnext =>
    rw [next_of_scanning hphase] at hnext
    exact absurd hkind (kind_scan_ne (congrArg Prod.fst hnext))
  | rescan _ hends => exact (Interpolations.endsAt_iff.1 hends).2

theorem kind_of_rescan {brace : Token} (hbrace : BehindBrace brace l) (hphase : l.phase = .scanning)
    (h : l.rescan brace = (.ok t, l')) : t.kind = .templateTail ∨ t.kind = .templateMiddle := by
  rw [rescan_of_brace hphase hbrace.kind_eq hbrace.stop_eq] at h
  split at h
  · cases h
  · rename_i hscan
    cases h
    exact kind_templateContinuation hscan

/-- What a token leaves open it leaves open inside another interpolation, and that one counts the
braces that are left. -/
theorem Finds.exists_after_inside (h : l.Finds s t l') (hphase : l.phase = .scanning)
    (hbrace : (s.inside n).endsAt t = false) (hdepth : t.depthAfter? (s.inside n).depth = some d) :
    ∃ n', (s.inside n).after t = (s.after t).inside n' ∧ ((s.after t).inside n').depth = d := by
  have hhead : t.kind = .templateTail → s.openBraces.head? = some 0 :=
    h.head?_of_templateTail hphase
  have hsome : t.kind = .templateTail → s.openBraces ≠ [] := by
    intro hkind hnil
    have hzero := hhead hkind
    rw [hnil] at hzero
    cases hzero
  obtain ⟨n', hafter⟩ := Interpolations.exists_after_inside hsome n
  refine ⟨n', hafter, ?_⟩
  have hcount := Interpolations.depthAfter?_depth (s := s.inside n)
    (List.append_ne_nil_of_right_ne_nil _ nofun) hbrace fun hkind => by
      rw [Interpolations.inside, List.head?_append, hhead hkind]
      rfl
  rw [hdepth, hafter] at hcount
  exact (Option.some.inj hcount).symm

theorem CallsBeside.of_running {newline : Bool} {found : Except Stop Token × Lexer}
    (h : CallsBeside k newline y l m (.ok t, l') found) (hphase : l'.phase ≠ .finished) :
    ∃ m' u', found = (.ok (t.moved k newline), m') ∧ Beside k false y [] u' l' m' ∧
      Progress k l l' m m' := by
  cases h with
  | token hkind hbeside hprogress => exact ⟨_, _, rfl, hbeside, hprogress⟩
  | finish => exact absurd rfl hphase

/-- A step is the same inside an interpolation. -/
theorem Beside.finds (h : Beside k false y gap u l m)
    (hcloses : Closes y l.source.contents l.cursor.index) (hfinds : l.Finds s t l')
    (hrunning : l'.isFinished = false) (hdepth : t.depthAfter? (s.inside n).depth = some d) :
    ∃ m' n' u', m.Finds (s.inside n) (t.shift k) m' ∧
      (s.inside n).after (t.shift k) = (s.after t).inside n' ∧ ((s.after t).inside n').depth = d ∧
      Beside k false y [] u' l' m' ∧ Progress k l l' m m' := by
  have hphase : l'.phase ≠ .finished := by
    intro hfinished
    rw [(isFinished_eq l').2 hfinished] at hrunning
    cases hrunning
  have hcount := hfinds.exists_after_inside h.phase (n := n) (d := d)
  have hcalls := next_beside h hcloses
  cases hfinds with
  | next hnext hends =>
    rw [hnext] at hcalls
    obtain ⟨m', u', hm, hbeside, hprogress⟩ := hcalls.of_running hphase
    rw [Token.moved_false] at hm
    have hbrace : (s.inside n).endsAt t = false := by
      rw [Interpolations.endsAt_inside, hends]
      rintro hclose hnil rfl
      have hnone : t.depthAfter? (s.inside 0).depth = none := by
        rw [Interpolations.inside, hnil, Token.depthAfter?, hclose]
        rfl
      rw [hdepth] at hnone
      cases hnone
    obtain ⟨n', hafter, hdepth'⟩ := hcount hbrace hdepth
    exact ⟨m', n', u', .next (eq_of_mapError hm) hbrace, hafter, hdepth', hbeside, hprogress⟩
  | @rescan brace l₁ hnext hends hrescan =>
    obtain ⟨hclose, hhead⟩ := Interpolations.endsAt_iff.1 hends
    obtain ⟨-, hphase₁, hbehind⟩ :=
      behindBrace_of_next h.ready (phase_ne_finished h.phase) hnext hclose
    rw [hnext] at hcalls
    obtain ⟨m₁, u₁, hm, hbeside, hprogress⟩ := hcalls.of_running (phase_ne_finished hphase₁)
    have hbehind' := BehindBrace.of_next h.ready' (phase_ne_finished h.phase') hm hclose
    have hagain := rescan_beside hbeside hbehind hbehind'
    rw [hrescan] at hagain
    obtain ⟨m', u', hm', hbeside', hprogress'⟩ := hagain.of_running hphase
    simp only [Token.moved_false] at hm hm'
    have hends' : (s.inside n).endsAt brace = true := by
      rw [Interpolations.endsAt_inside, hends]
      intro _ hnil
      rw [hnil] at hhead
      cases hhead
    have hbrace : (s.inside n).endsAt t = false := by
      rw [Bool.eq_false_iff, ne_eq, Interpolations.endsAt_iff]
      rintro ⟨hkind, -⟩
      obtain hmakes | hmakes := kind_of_rescan hbehind hphase₁ hrescan <;>
        exact absurd (hmakes.symm.trans hkind) nofun
    obtain ⟨n', hafter, hdepth'⟩ := hcount hbrace hdepth
    exact ⟨m', n', u', .rescan (eq_of_mapError hm) hends' hm', hafter, hdepth', hbeside',
      hprogress.trans hprogress'⟩

/-- What has been found ends where the lexer goes on. -/
theorem Finds.stop_eq (h : l.Finds s t l') (hready : l.Ready) (hphase : l.phase = .scanning)
    (hphase' : l'.phase = .scanning) : t.stop = l'.cursor.index := by
  obtain ⟨again, hdrive⟩ := h.exists_drive_eq
  obtain ⟨start, -, hcall⟩ := drive_call hready (phase_ne_finished hphase) again
  rw [hdrive] at hcall
  generalize hresult : (Except.ok t, l').1 = result at hcall
  cases hcall with
  | token _ _ _ _ _ _ hstop =>
    cases hresult
    exact hstop
  | finish hfinished => exact absurd hfinished (phase_ne_finished hphase')
  | abort => cases hresult

/-- Behind one of the tokens, or at the beginning, comes a line comment that goes on to the end of
the source. -/
def EndsInComment (bytes : ByteArray) (tokens : List Token) : Prop :=
  ∃ offset start, (offset = 0 ∨ ∃ t ∈ tokens, t.stop = offset) ∧
    Gap bytes false offset start ∧ OpenComment bytes start

/-- A run is the same inside an interpolation, if it leaves no line comment open. -/
theorem Follows.inside (h : Follows l s tokens l₁ s₁) (hbeside : Beside k false y gap u l m)
    (hdepth : tokens.foldlM Token.depthAfter? (s.inside n).depth = some d)
    (hcloses : ∀ offset ∈ l.cursor.index :: tokens.map Token.stop,
      Closes y l.source.contents offset) :
    ∃ m₁ n₁ gap₁ u₁, Follows m (s.inside n) (tokens.map (·.shift k)) m₁ (s₁.inside n₁) ∧
      (s₁.inside n₁).depth = d ∧ Beside k false y gap₁ u₁ l₁ m₁ ∧ Progress k l l₁ m m₁ ∧
      Closes y l₁.source.contents l₁.cursor.index := by
  induction h generalizing m gap u n with
  | nil =>
    exact ⟨m, n, gap, u, .nil _ _, Option.some.inj hdepth, hbeside, .refl ..,
      hcloses _ List.mem_cons_self⟩
  | @cons l l' l'' s s'' t tokens hfinds hrunning hrest ih =>
    rw [List.foldlM_cons] at hdepth
    obtain ⟨n₀, hfirst, hdepth⟩ := Option.bind_eq_some_iff.1 hdepth
    rw [List.map_cons, List.forall_mem_cons] at hcloses
    obtain ⟨m', n', u', hfinds', hafter, rfl, hbeside', hprogress⟩ :=
      hbeside.finds hcloses.1 hfinds hrunning hfirst
    have hstop := hfinds.stop_eq hbeside.ready hbeside.phase hbeside'.phase
    rw [hstop, ← hprogress.source_eq] at hcloses
    obtain ⟨m₁, n₁, gap₁, u₁, hfollows, hcount, hbeside₁, hprogress₁, hclosed⟩ :=
      ih hbeside' hdepth hcloses.2
    refine ⟨m₁, n₁, gap₁, u₁, .cons hfinds' ?_ (hafter ▸ hfollows), hcount, hbeside₁,
      hprogress.trans hprogress₁, hclosed⟩
    rw [isFinished, hbeside'.phase']
    rfl

/-- Where the run comes to its end, the other lexer goes on with what is behind. -/
theorem Beside.exists_of_end (h : Beside k false y gap u l m)
    (hcloses : Closes y l.source.contents l.cursor.index) (hfinds : l.Finds s t l')
    (hkind : t.kind = .endOfInput) :
    ∃ l₁ m₁ gap₁, Beside k false y gap₁ [] l₁ m₁ ∧ Progress k l l₁ m m₁ ∧ m.next = m₁.scan := by
  have hcalls := next_beside h hcloses
  cases hfinds with
  | next hnext =>
    generalize hm : (m.next.1.mapError Stop.fatal, m.next.2) = found at hcalls
    generalize hl : (l.next.1.mapError Stop.fatal, l.next.2) = found' at hcalls
    rw [hnext] at hl
    cases hcalls with
    | token hother =>
      cases hl
      exact absurd hkind hother
    | @finish l₁ m₁ gap₁ hbeside hprogress =>
      exact ⟨l₁, m₁, gap₁, hbeside, hprogress, eq_of_mapError hm⟩
    | abort => cases hl
  | @rescan brace l₁ hnext hends hrescan =>
    obtain ⟨hclose, -⟩ := Interpolations.endsAt_iff.1 hends
    obtain ⟨-, hphase₁, hbehind⟩ :=
      behindBrace_of_next h.ready (phase_ne_finished h.phase) hnext hclose
    obtain hmakes | hmakes := kind_of_rescan hbehind hphase₁ hrescan <;>
      exact absurd (hmakes.symm.trans hkind) nofun

end Lexer

end Lexis
