import Lexis.Proofs.Scanner.Units

/-!
# Where quoted bodies end

Any text can be read as the units of a style, whether a literal ends in it or not
(`QuoteStyle.units`). A body ends at the first unit that begins with a closer, unless a line
terminator or the end of the text comes before (`QuoteStyle.ClosesFirst`). What the scan of a body
crosses are the units up to there.
-/

namespace Lexis.QuoteStyle

open CharClass

variable {style : QuoteStyle} {unit passed rest text : List Char} {us : List (List Char)}
  {closer : List Char} {ending : Ending}

/-- The unit that a text begins with. A backslash takes the code point behind it along, and a
carriage return there the line feed behind that; in a raw string every code point is a unit. -/
def firstUnit (style : QuoteStyle) (text : List Char) : List Char :=
  if style.hasEscapes then
    match text with
    | '\\' :: '\r' :: '\n' :: _ => ['\\', '\r', '\n']
    | '\\' :: ch :: _ => ['\\', ch]
    | _ => text.take 1
  else text.take 1

theorem length_firstUnit_pos (style : QuoteStyle) (ch : Char) (text : List Char) :
    0 < (style.firstUnit (ch :: text)).length := by
  unfold firstUnit
  split
  · split <;> exact Nat.succ_pos _
  · exact Nat.succ_pos _

/-- The units of a text. -/
def units (style : QuoteStyle) : List Char → List (List Char)
  | [] => []
  | ch :: text =>
    style.firstUnit (ch :: text) ::
      style.units ((ch :: text).drop (style.firstUnit (ch :: text)).length)
termination_by text => text.length
decreasing_by
  have hpos := style.length_firstUnit_pos ch text
  rw [List.length_drop, List.length_cons]
  omega

/-- A line terminator that the style does not admit. -/
def isBreak (style : QuoteStyle) : (unit : List Char) → Bool
  | [ch] => style.isSingleLine && isLineTerminator ch
  | _ => false

/-- The text has a closer behind the given units, with no line terminator among them that breaks the
literal off. -/
structure Closes (style : QuoteStyle) (text : List Char) (us : List (List Char))
    (closer : List Char) (ending : Ending) : Prop where
  closer_eq : ∃ vs, style.units text = us ++ vs ∧
    style.closing? vs.flatten = some (closer, ending)
  unbroken : ∀ unit ∈ us, style.isBreak unit = false

/-- The closer is the first one. -/
structure ClosesFirst (style : QuoteStyle) (text : List Char) (us : List (List Char))
    (closer : List Char) (ending : Ending) : Prop extends style.Closes text us closer ending where
  least : ∀ us' closer' ending', style.Closes text us' closer' ending' → us.length ≤ us'.length

theorem Closes.unique {us' : List (List Char)} {closer' : List Char} {ending' : Ending}
    (h : style.Closes text us closer ending) (h' : style.Closes text us' closer' ending')
    (hlength : us.length = us'.length) : us = us' ∧ closer = closer' ∧ ending = ending' := by
  obtain ⟨vs, hunits, hcloser⟩ := h.closer_eq
  obtain ⟨vs', hunits', hcloser'⟩ := h'.closer_eq
  obtain ⟨rfl, rfl⟩ := List.append_inj (hunits.symm.trans hunits') hlength
  rw [hcloser, Option.some.injEq, Prod.mk.injEq] at hcloser'
  exact ⟨rfl, hcloser'⟩

theorem ClosesFirst.unique {us' : List (List Char)} {closer' : List Char} {ending' : Ending}
    (h : style.ClosesFirst text us closer ending)
    (h' : style.ClosesFirst text us' closer' ending') :
    us = us' ∧ closer = closer' ∧ ending = ending' :=
  h.toCloses.unique h'.toCloses
    (Nat.le_antisymm (h.least _ _ _ h'.toCloses) (h'.least _ _ _ h.toCloses))

/-! ## Units of a text -/

theorem firstUnit_isPrefix (style : QuoteStyle) (text : List Char) :
    style.firstUnit text <+: text := by
  unfold firstUnit
  split
  · split
    · exact List.prefix_append ['\\', '\r', '\n'] _
    · exact List.prefix_append ['\\', _] _
    · exact List.take_prefix 1 text
  · exact List.take_prefix 1 text

theorem flatten_units (style : QuoteStyle) (text : List Char) :
    (style.units text).flatten = text := by
  fun_induction units style text with
  | case1 => rfl
  | case2 ch text ih =>
    have htake := List.prefix_iff_eq_take.1 (style.firstUnit_isPrefix (ch :: text))
    rw [List.flatten_cons, ih]
    exact (congrArg (· ++ _) htake).trans (List.take_append_drop _ _)

theorem IsUnit.ne_nil (h : style.IsUnit unit rest) : unit ≠ [] := by
  cases h <;> exact List.cons_ne_nil _ _

theorem IsUnit.firstUnit_eq (h : style.IsUnit unit rest) :
    style.firstUnit (unit ++ rest) = unit := by
  unfold firstUnit
  cases h with
  | single ch _ hplain =>
    split
    · rename_i hescapes
      have hch : ch ≠ '\\' := by
        rintro rfl
        rw [hplain rfl] at hescapes
        cases hescapes
      simp [hch]
    · rfl
  | escape ch _ hescapes hnot =>
    rw [if_pos hescapes]
    split
    · rename_i more htext
      obtain ⟨rfl, hrest⟩ := List.cons.inj (List.cons.inj htext).2
      exact absurd (congrArg List.head? hrest) (hnot rfl)
    · rename_i d more _ htext
      rw [(List.cons.inj (List.cons.inj htext).2).1]
    · rename_i hnone
      exact absurd rfl (hnone ch rest)
  | lineBreak _ hescapes => rw [if_pos hescapes]; rfl
  | dangling hescapes => rw [if_pos hescapes]; rfl

theorem IsUnit.units_eq (h : style.IsUnit unit rest) :
    style.units (unit ++ rest) = unit :: style.units rest := by
  obtain ⟨ch, more, htext⟩ :=
    List.exists_cons_of_ne_nil (List.append_ne_nil_of_left_ne_nil h.ne_nil rest)
  rw [htext, units, ← htext, h.firstUnit_eq, List.drop_left]

/-! ## Closers -/

theorem breaksAt_of_isBreak (h : style.isBreak unit = true) (rest : List Char) :
    style.breaksAt (unit ++ rest) = true := by
  unfold isBreak at h
  split at h
  · exact h
  · cases h

/-- The units that a scan crosses hold no closer, and no line terminator that breaks the literal
off. -/
theorem Crosses.exists_units (h : style.Crosses passed rest) :
    ∃ us, us.flatten = passed ∧ style.units (passed ++ rest) = us ++ style.units rest ∧
      (∀ unit ∈ us, style.isBreak unit = false) ∧
      ∀ before after, us = before ++ after → after ≠ [] →
        style.closing? (after.flatten ++ rest) = none := by
  induction h with
  | nil rest =>
    refine ⟨[], rfl, rfl, List.forall_mem_nil _, ?_⟩
    intro before after hnil hne
    exact absurd (List.append_eq_nil_iff.1 hnil.symm).2 hne
  | @cons unit passed rest hunit hlive hrest ih =>
    obtain ⟨us, rfl, hunits, hbreaks, hclosers⟩ := ih
    refine ⟨unit :: us, rfl, ?_, ?_, ?_⟩
    · rw [List.append_assoc, hunit.units_eq, hunits]
      rfl
    · refine List.forall_mem_cons.2 ⟨eq_false_of_ne_true fun hbreak => ?_, hbreaks⟩
      exact not_live_of_breaksAt (breaksAt_of_isBreak hbreak _) hlive
    · intro before after hall hne
      cases before with
      | nil =>
        rw [← List.nil_append after, ← hall, List.flatten_cons, List.append_assoc]
        exact hlive.2
      | cons first before => exact hclosers before after (List.cons.inj hall).2 hne

/-- No closer comes before the place where a scan has crossed to. -/
theorem length_le_of_closes {us' : List (List Char)}
    (hunits : style.units text = us ++ style.units rest)
    (hnone : ∀ before after, us = before ++ after → after ≠ [] →
      style.closing? (after.flatten ++ rest) = none)
    (h : style.Closes text us' closer ending) : us.length ≤ us'.length := by
  obtain ⟨vs, hunits', hcloser⟩ := h.closer_eq
  rw [hunits] at hunits'
  obtain ⟨more, rfl, -⟩ | ⟨more, rfl, rfl⟩ := List.append_eq_append_iff.1 hunits'
  · rw [List.length_append]
    exact Nat.le_add_right _ _
  · cases more with
    | nil => exact Nat.le_of_eq (congrArg List.length (List.append_nil us'))
    | cons unit more =>
      have hclosed := hnone us' _ rfl (List.cons_ne_nil unit more)
      rw [List.flatten_append, flatten_units, hclosed] at hcloser
      cases hcloser

/-- Where a scan comes to a closer, the body ends. -/
theorem Crosses.closesFirst (h : style.Crosses passed rest)
    (hcloser : style.closing? rest = some (closer, ending)) :
    ∃ us, us.flatten = passed ∧ style.ClosesFirst (passed ++ rest) us closer ending := by
  obtain ⟨us, hflatten, hunits, hbreaks, hnone⟩ := h.exists_units
  have hcloses : style.Closes (passed ++ rest) us closer ending :=
    ⟨⟨_, hunits, by rwa [flatten_units]⟩, hbreaks⟩
  exact ⟨us, hflatten, hcloses, fun us' _ _ h' => length_le_of_closes hunits hnone h'⟩

theorem isBreak_of_breaksAt {more : List (List Char)} (h : style.breaksAt rest = true)
    (hunits : style.units rest = unit :: more) : style.isBreak unit = true := by
  cases rest with
  | nil =>
    rw [units] at hunits
    cases hunits
  | cons ch rest =>
    have hch : ch ≠ '\\' := by
      rintro rfl
      exact absurd (Bool.and_eq_true_iff.1 h).2 (by decide)
    have hunit : style.IsUnit [ch] rest := .single ch rest fun heq => absurd heq hch
    have hfirst := hunit.units_eq
    rw [List.singleton_append, hunits] at hfirst
    rw [(List.cons.inj hfirst).1]
    exact h

/-- Where the literal breaks off, it has not been closed, and will not be. -/
theorem Crosses.not_closes (h : style.Crosses passed rest) (hbreaks : style.breaksAt rest = true) :
    ¬ style.Closes (passed ++ rest) us closer ending := by
  obtain ⟨vs, -, hunits, -, hnone⟩ := h.exists_units
  intro hcloses
  have hle := length_le_of_closes hunits hnone hcloses
  obtain ⟨ws, hunits', hcloser⟩ := hcloses.closer_eq
  obtain ⟨more, rfl⟩ :=
    List.prefix_of_prefix_length_le ⟨_, hunits.symm⟩ ⟨_, hunits'.symm⟩ hle
  rw [hunits, List.append_assoc, List.append_cancel_left_eq] at hunits'
  cases more with
  | nil =>
    rw [List.nil_append] at hunits'
    rw [← hunits', flatten_units, closing?_of_breaksAt hbreaks] at hcloser
    cases hcloser
  | cons unit more =>
    have hunbroken := hcloses.unbroken unit (List.mem_append_right _ List.mem_cons_self)
    rw [isBreak_of_breaksAt hbreaks hunits'] at hunbroken
    cases hunbroken

/-- A literal is broken off by the first of its units that can do that, or at the end. -/
theorem Crosses.takeWhile_units (h : style.Crosses passed rest)
    (hbreaks : style.breaksAt rest = true) :
    ((style.units (passed ++ rest)).takeWhile (!style.isBreak ·)).flatten = passed := by
  obtain ⟨us, rfl, hunits, hunbroken, -⟩ := h.exists_units
  rw [hunits, List.takeWhile_append_of_pos (by simpa using hunbroken), List.flatten_append]
  cases hrest : style.units rest with
  | nil => exact List.append_nil _
  | cons unit more =>
    rw [List.takeWhile_cons_of_neg (by simp [isBreak_of_breaksAt hbreaks hrest])]
    exact List.append_nil _

end Lexis.QuoteStyle
