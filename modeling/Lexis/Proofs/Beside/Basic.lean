import Lexis.Proofs.Location.Shift
import Lexis.Proofs.Scanner.Passed

/-!
# The same text at two places

Two cursors stand beside each other if the same text is in front of them, each with something of its
own behind that. What a scanner makes of the text at the one place it makes of it at the other
(`Agree`), as long as it does not reach into what is behind: a scanner looks ahead, but it does not
tell the end of the input from a line feed or a closing brace.
-/

namespace Lexis

/-- A text that is no part of a token before it, whatever the token. -/
inductive Detached : List Char → Prop
  | nil : Detached []
  | lineFeed (text : List Char) : Detached ('\n' :: text)
  | closeBrace (text : List Char) : Detached ('\x7d' :: text)

theorem Detached.any_head? {text : List Char} (h : Detached text) {p : Char → Bool}
    (hfeed : p '\n' = false) (hbrace : p '\x7d' = false) : text.head?.any p = false := by
  cases h <;> simp [hfeed, hbrace]

namespace Scanner

variable {α β α' β' : Type} {i j : Nat} {x y u passed : List Char} {c d c' d' : Cursor}

/-- The cursors stand in front of the same text, with `x` and `y` behind it. Their offsets differ as
`i` and `j` do. -/
structure Beside (i j : Nat) (x y u : List Char) (c d : Cursor) : Prop where
  detached : Detached y
  started : c.Started
  started' : d.Started
  index_eq : c.index + j = d.index + i
  text_eq : c.text = u ++ x
  text_eq' : d.text = u ++ y

namespace Beside

theorem passes (h : Beside i j x y (passed ++ u) c d) (hc : c.Passes passed c')
    (hd : d.Passes passed d') : Beside i j x y u c' d' where
  detached := h.detached
  started := hc.started
  started' := hd.started
  index_eq := by
    rw [hc.index_eq, hd.index_eq, Nat.add_right_comm, h.index_eq, Nat.add_right_comm]
  text_eq := by
    have htext := hc.text_eq
    rw [h.text_eq, List.append_assoc] at htext
    exact (List.append_cancel_left htext).symm
  text_eq' := by
    have htext := hd.text_eq
    rw [h.text_eq', List.append_assoc] at htext
    exact (List.append_cancel_left htext).symm

/-- Looking ahead leaves the cursors beside each other. -/
theorem ahead (h : Beside i j x y u c d) (hc : c.Passes [] c') (hd : d.Passes [] d') :
    Beside i j x y u c' d' := by
  rw [← List.nil_append u] at h
  exact h.passes hc hd

theorem advance {ch : Char} (h : Beside i j x y (ch :: u) c d) :
    c.current = .scalar ch ∧ d.current = .scalar ch ∧ Beside i j x y u c.advance d.advance := by
  have hcur := h.started.current_of_text_cons h.text_eq
  have hcur' := h.started'.current_of_text_cons h.text_eq'
  rw [← List.singleton_append] at h
  exact ⟨hcur, hcur', h.passes (Cursor.passes_advance hcur) (Cursor.passes_advance hcur')⟩

theorem advanceBy (passed : List Char) (h : Beside i j x y (passed ++ u) c d) :
    Beside i j x y u (c.advanceBy passed.length) (d.advanceBy passed.length) := by
  apply h.passes
  · exact Cursor.passes_advanceBy_length h.started ⟨u ++ x, by rw [h.text_eq, List.append_assoc]⟩
  · exact Cursor.passes_advanceBy_length h.started' ⟨u ++ y, by rw [h.text_eq', List.append_assoc]⟩

/-- What has been passed in front of `x` is the beginning of the common text. -/
theorem eq_append {more : List Char} (h : Beside i j x y u c d) (hc : c.Passes passed c')
    (hmore : c'.text = more ++ x) : u = passed ++ more := by
  have htext := hc.text_eq
  rw [h.text_eq, hmore, ← List.append_assoc] at htext
  exact List.append_cancel_right htext

theorem text_eq_of_nil (h : Beside i j x y u c d) (hx : x = []) (hy : y = []) :
    d.text = c.text := by
  rw [h.text_eq, h.text_eq', hx, hy]

end Beside

/-! ## Results that agree -/

/-- What has been found at the one place without reaching into `x` has been found at the other. If
nothing is behind the common text, this holds of errors as well. -/
def Agree (i j : Nat) (x y : List Char) (rel : α → β → Prop) :
    EStateM.Result LexError Cursor α → EStateM.Result LexError Cursor β → Prop
  | .ok a c, result => ∀ u, c.text = u ++ x →
      ∃ b d, result = .ok b d ∧ rel a b ∧ Beside i j x y u c d
  | .error e _, result => x = [] → y = [] → ∃ e' d, result = .error e' d ∧ e.shift j = e'.shift i

variable {rel : α → β → Prop} {rel' : α' → β' → Prop}

/-- A scanner that does not fail agrees if the other passes the same. -/
theorem Agree.of_passes {a : α} {r' : EStateM.Result LexError Cursor β}
    (h : Beside i j x y u c d) (hc : c.Passes passed c')
    (hd : ∀ more, u = passed ++ more → c'.text = more ++ x →
      ∃ b d', r' = .ok b d' ∧ rel a b ∧ d.Passes passed d') :
    Agree i j x y rel (.ok a c') r' := by
  intro more hmore
  have hu := h.eq_append hc hmore
  obtain ⟨b, d', hr, hab, hpass⟩ := hd more hu hmore
  exact ⟨b, d', hr, hab, (hu ▸ h).passes hc hpass⟩

theorem Agree.of_ok {a : α} {b : β} (h : Beside i j x y u c d) (hab : rel a b) :
    Agree i j x y rel (.ok a c) (.ok b d) := by
  intro more hmore
  have hu : u = more := List.append_cancel_right (h.text_eq.symm.trans hmore)
  exact ⟨b, d, rfl, hab, hu ▸ h⟩

theorem Agree.of_error {e e' : LexError} (he : e.shift j = e'.shift i) :
    Agree i j x y rel (.error e c) (.error e' d) :=
  fun _ _ => ⟨e', d, rfl, he⟩

/-- The results of two scanners agree if those that they are made from do. -/
theorem Agree.map {s : Scanner α} {s' : Scanner β} {f : α → α'} {g : β → β'}
    (h : Agree i j x y rel (s c) (s' d)) (hrel : ∀ a b, rel a b → rel' (f a) (g b)) :
    Agree i j x y rel' ((s >>= fun a => pure (f a)) c) ((s' >>= fun b => pure (g b)) d) := by
  simp only [Bind.bind, EStateM.bind]
  cases hc : s c with
  | ok a c' =>
    rw [hc] at h
    intro u hu
    obtain ⟨b, d', hd, hab, hbeside⟩ := h u hu
    exact ⟨g b, d', by rw [hd]; rfl, hrel a b hab, hbeside⟩
  | error e c' =>
    rw [hc] at h
    intro hx hy
    obtain ⟨e', d', hd, he⟩ := h hx hy
    exact ⟨e', d', by rw [hd], he⟩

/-- The scanner passes some text, whatever it is. -/
def Passing (s : Scanner α) : Prop :=
  ∀ c a c', c.Started → s c = .ok a c' → ∃ passed, c.Passes passed c'

theorem Passing.bind {s : Scanner α} {k : α → Scanner α'} (hs : Passing s)
    (hk : ∀ a, Passing (k a)) : Passing (s >>= k) := by
  intro c b c₂ hstart h
  obtain ⟨a, c₁, hfirst, hrest⟩ := bind_eq_ok_iff.1 h
  obtain ⟨before, hbefore⟩ := hs c a c₁ hstart hfirst
  obtain ⟨more, hmore⟩ := hk a c₁ b c₂ hbefore.started hrest
  exact ⟨_, hbefore.trans hmore⟩

theorem passing_pure (a : α) : Passing (pure a) := by
  intro c b c' hstart h
  cases h
  exact ⟨[], .refl hstart⟩

theorem passing_fail (e : LexError) : Passing (fail e : Scanner α) := by
  intro c b c' _ h
  cases h

/-- It is enough to look at results that do not reach from some place on into `x`. -/
theorem Agree.of_forall {c₁ : Cursor} {r : EStateM.Result LexError Cursor α}
    {r' : EStateM.Result LexError Cursor β}
    (hpass : ∀ a c', r = .ok a c' → ∃ passed, c₁.Passes passed c')
    (h : ∀ more, c₁.text = more ++ x → Agree i j x y rel r r') : Agree i j x y rel r r' := by
  cases r with
  | ok a c' =>
    intro u hu
    obtain ⟨passed, hpassed⟩ := hpass a c' rfl
    exact h (passed ++ u) (by rw [hpassed.text_eq, hu, List.append_assoc]) u hu
  | error e c' =>
    intro hx hy
    exact h c₁.text (by rw [hx, List.append_nil]) hx hy

/-- One step after another agrees. What the second step passes lies behind what the first has
passed, so that neither of them has reached into `x` if both together have not. -/
theorem Agree.bind {s : Scanner α} {s' : Scanner β} {k : α → Scanner α'} {k' : β → Scanner β'}
    (hstart : c.Started) (hs : Passing s) (hk : ∀ a, Passing (k a))
    (h : Agree i j x y rel (s c) (s' d))
    (hrest : ∀ a b u c₁ d₁, rel a b → Beside i j x y u c₁ d₁ →
      Agree i j x y rel' (k a c₁) (k' b d₁)) :
    Agree i j x y rel' ((s >>= k) c) ((s' >>= k') d) := by
  simp only [Bind.bind, EStateM.bind]
  cases hsc : s c with
  | error e c₁ =>
    rw [hsc] at h
    intro hx hy
    obtain ⟨e', d₁, hd, he⟩ := h hx hy
    exact ⟨e', d₁, by rw [hd], he⟩
  | ok a c₁ =>
    rw [hsc] at h
    obtain ⟨_, hpass⟩ := hs c a c₁ hstart hsc
    refine .of_forall (fun b c₂ hkc => hk a c₁ b c₂ hpass.started hkc) fun u hu => ?_
    obtain ⟨b, d₁, hd, hab, hbeside⟩ := h u hu
    simp only [hd]
    exact hrest a b u c₁ d₁ hab hbeside

/-- In front of something that is cut off, an error agrees with anything. -/
theorem Agree.of_cut {e : LexError} {r' : EStateM.Result LexError Cursor β} (hx : x ≠ []) :
    Agree i j x y rel (.error e c' : EStateM.Result LexError Cursor α) r' :=
  fun hnil => absurd hnil hx

/-- A result that reaches into `x` agrees with anything. -/
theorem Agree.of_beyond {r : EStateM.Result LexError Cursor α}
    {r' : EStateM.Result LexError Cursor β} (h : Beside i j x y u c d) (hx : x ≠ [])
    (hlong : ∀ a c', r = .ok a c' → ∃ passed, c.Passes passed c' ∧ u.length < passed.length) :
    Agree i j x y rel r r' := by
  cases r with
  | error e c' => exact .of_cut hx
  | ok a c' =>
    intro more hmore
    obtain ⟨passed, hpass, hlt⟩ := hlong a c' rfl
    have hlength := congrArg List.length (h.eq_append hpass hmore)
    rw [List.length_append] at hlength
    omega

/-- A run of code points ends at the same place if what is behind does not go on with it. -/
theorem takeWhile_append_eq {p : Char → Bool} {more : List Char}
    (hrun : ((passed ++ more) ++ x).takeWhile p = passed)
    (hy : more = [] → y.head?.any p = false) :
    ((passed ++ more) ++ y).takeWhile p = passed := by
  have hall : ∀ ch ∈ passed, p ch = true := by
    intro ch hch
    rw [← hrun] at hch
    exact List.all_eq_true.1 List.all_takeWhile ch hch
  rw [List.append_assoc, List.takeWhile_append_of_pos hall] at hrun ⊢
  rw [List.append_right_eq_self] at hrun ⊢
  cases more with
  | nil =>
    have hfirst := hy rfl
    cases y with
    | nil => rfl
    | cons ch y =>
      rw [List.nil_append, List.takeWhile_cons_of_neg]
      simpa using hfirst
  | cons ch more =>
    rw [List.cons_append] at hrun ⊢
    by_cases hch : p ch = true
    · rw [List.takeWhile_cons_of_pos hch] at hrun
      cases hrun
    · rw [List.takeWhile_cons_of_neg hch]

/-! ## Lexemes that agree -/

/-- The lexemes are the same, but for the places that they have been found at. -/
def SameLexeme (i j : Nat) (a b : Lexeme) : Prop := a.shift j = b.shift i

theorem sameLexeme_of_plain {lexeme : Lexeme} (i j : Nat) (hproblem : lexeme.problem? = none)
    (hpragmas : lexeme.pragmas = {}) : SameLexeme i j lexeme lexeme := by
  have hshift : ∀ n, lexeme.shift n = lexeme := by
    intro n
    obtain ⟨kind, flags, value?, problem?, pragmas, crossesLine⟩ := lexeme
    cases hproblem
    cases hpragmas
    rfl
  rw [SameLexeme, hshift, hshift]

end Scanner

end Lexis
