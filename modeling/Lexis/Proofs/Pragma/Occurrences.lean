import Mathlib.Data.Nat.Find
import Lexis.Pragma

/-!
# Where pragmas stand in comments

A pragma occurs in the text of a comment where what leads to its argument (`Pragma.Leads`) has a
code point behind it that is no whitespace. What is found in a comment is the first occurrence, if
there is one, and its argument goes up to whitespace or to the end of the text
(`Pragma.get?_ofComment_eq_some_iff`).
-/

namespace Lexis

open CharClass

/-- The pragmas that are looked for in comments. -/
inductive Pragma where
  | sourceMappingUrl
  | edition
  deriving DecidableEq, Inhabited

namespace Pragma

/-- The argument of the pragma, if there is one. -/
def get? : Pragma → Pragmas → Option PragmaArgument
  | .sourceMappingUrl, found => found.sourceMappingUrl?
  | .edition, found => found.edition?

/-- Whether `lead` leads to the argument of a pragma that begins behind `before`. -/
def Leads : Pragma → (before lead : List Char) → Prop
  | .sourceMappingUrl, before, lead =>
    before = [] ∧ (lead = "//# sourceMappingURL=".toList ∨ lead = "/*# sourceMappingURL=".toList)
  | .edition, before, lead => ∃ blank, blank ≠ [] ∧ (∀ ch ∈ blank, isWhitespace ch = true) ∧
      lead = before ++ "@edition".toList ++ blank

/-- The pragma stands behind `before`, and behind `lead` there is an argument. -/
structure OccursIn (pragma : Pragma) (text before lead : List Char) : Prop where
  leads : pragma.Leads before lead
  goesOn : ∃ ch, lead ++ [ch] <+: text ∧ isWhitespace ch = false

/-- The first place where the pragma occurs in the text. -/
structure FirstIn (pragma : Pragma) (text before lead : List Char) : Prop where
  occurs : pragma.OccursIn text before lead
  first : ∀ before' lead', pragma.OccursIn text before' lead' → before.length ≤ before'.length

end Pragma

namespace PragmaArgument

/-- The word behind `lead` in a text that starts at the offset. -/
def behind (offset : Nat) (lead word : List Char) : PragmaArgument :=
  ⟨String.ofList word, .ofLength (offset + Utf8.size lead) (Utf8.size word)⟩

/-- The word is the run of code points behind `lead` that are no whitespace: it is not empty and
goes up to whitespace or to the end of the text. -/
structure IsWord (text lead word : List Char) : Prop where
  ne_nil : word ≠ []
  unbroken : ∀ ch ∈ word, isWhitespace ch = false
  ends : ∃ rest, text = lead ++ word ++ rest ∧ rest.head?.all isWhitespace = true

variable {text lead word keyword : List Char} {offset : Nat} {arg : PragmaArgument}

theorem isWord_append_iff (before : List Char) : IsWord text (before ++ lead) word ↔
    ∃ rest, text = before ++ rest ∧ IsWord rest lead word := by
  constructor
  · rintro ⟨hne, hall, rest, rfl, hrest⟩
    exact ⟨lead ++ word ++ rest, by simp only [List.append_assoc], hne, hall, rest, rfl, hrest⟩
  · rintro ⟨_, rfl, hne, hall, rest, rfl, hrest⟩
    exact ⟨hne, hall, rest, by simp only [List.append_assoc], hrest⟩

theorem isWord_append_append_iff (before : List Char) :
    IsWord (before ++ text) (before ++ lead) word ↔ IsWord text lead word := by
  rw [isWord_append_iff]
  constructor
  · rintro ⟨rest, htext, hword⟩
    rwa [List.append_cancel_left htext]
  · intro hword
    exact ⟨text, rfl, hword⟩

theorem isWord_append_left_iff : IsWord (lead ++ text) lead word ↔ IsWord text [] word := by
  have hword : IsWord (lead ++ text) (lead ++ []) word ↔ IsWord text [] word :=
    isWord_append_append_iff lead
  rwa [List.append_nil] at hword

theorem isWord_nil_iff :
    IsWord text [] word ↔ word ≠ [] ∧ text.takeWhile (!isWhitespace ·) = word := by
  constructor
  · rintro ⟨hne, hall, rest, rfl, hrest⟩
    refine ⟨hne, ?_⟩
    have hhalt : rest.takeWhile (!isWhitespace ·) = [] := by
      cases rest with
      | nil => rfl
      | cons ch rest =>
        have hspace : isWhitespace ch = true := hrest
        simp [hspace]
    rw [List.nil_append, List.takeWhile_append_of_pos (by simpa using hall), hhalt,
      List.append_nil]
  · rintro ⟨hne, rfl⟩
    refine ⟨hne, ?_, text.dropWhile (!isWhitespace ·), ?_, ?_⟩
    · intro ch hch
      simpa using List.all_eq_true.1 List.all_takeWhile ch hch
    · exact List.takeWhile_append_dropWhile.symm
    · have hhead := List.head?_dropWhile_not (!isWhitespace ·) text
      cases hrest : (text.dropWhile (!isWhitespace ·)).head? with
      | none => rfl
      | some ch => simpa [hrest] using hhead

theorem exists_isWord_iff :
    (∃ word, IsWord text lead word) ↔ ∃ ch, lead ++ [ch] <+: text ∧ isWhitespace ch = false := by
  constructor
  · rintro ⟨word, hne, hall, rest, rfl, -⟩
    obtain ⟨ch, word, rfl⟩ := List.exists_cons_of_ne_nil hne
    refine ⟨ch, ⟨word ++ rest, ?_⟩, hall ch List.mem_cons_self⟩
    simp only [List.append_assoc, List.cons_append, List.nil_append]
  · rintro ⟨ch, ⟨rest, rfl⟩, hch⟩
    have hword : IsWord (ch :: rest) [] ((ch :: rest).takeWhile (!isWhitespace ·)) := by
      refine isWord_nil_iff.2 ⟨?_, rfl⟩
      rw [List.takeWhile_cons_of_pos (by simp [hch])]
      exact List.cons_ne_nil _ _
    rw [List.append_assoc, List.singleton_append]
    exact ⟨_, isWord_append_left_iff.2 hword⟩

/-! ## What is read behind a keyword -/

theorem afterKeyword?_eq_some_iff {rest : List Char} :
    afterKeyword? keyword text = some rest ↔ text = keyword ++ rest := by
  induction keyword generalizing text with
  | nil => rw [afterKeyword?, Option.some.injEq, List.nil_append]
  | cons k keyword ih =>
    cases text with
    | nil => simp [afterKeyword?]
    | cons ch text =>
      rw [afterKeyword?, List.cons_append, List.cons.injEq]
      by_cases hk : k = ch
      · rw [if_pos hk, ih]
        exact (and_iff_right hk.symm).symm
      · rw [if_neg hk]
        exact iff_of_false (Option.some_ne_none _).symm fun h => hk h.1.symm

theorem first?_eq_some_iff :
    first? offset text = some arg ↔ ∃ word, IsWord text [] word ∧ arg = behind offset [] word := by
  unfold first?
  constructor
  · intro h
    simp only at h
    split at h
    · cases h
    · rename_i hword
      refine ⟨_, isWord_nil_iff.2 ⟨?_, rfl⟩, (Option.some.inj h).symm⟩
      exact fun hnil => hword (List.isEmpty_iff.2 hnil)
  · rintro ⟨word, hword, rfl⟩
    obtain ⟨hne, hrun⟩ := isWord_nil_iff.1 hword
    rw [hrun]
    exact if_neg fun hnil => hne (List.isEmpty_iff.1 hnil)

theorem behind_append (offset : Nat) (before lead word : List Char) :
    behind (offset + Utf8.size before) lead word = behind offset (before ++ lead) word := by
  rw [behind, behind, Utf8.size_append, Nat.add_assoc]

theorem read?_adjacent_eq_some_iff : read? .adjacent offset keyword text = some arg ↔
    ∃ word, IsWord text keyword word ∧ arg = behind offset keyword word := by
  unfold read?
  cases hkeyword : afterKeyword? keyword text with
  | none =>
    refine iff_of_false nofun ?_
    rintro ⟨word, ⟨-, -, rest, htext, -⟩, -⟩
    rw [List.append_assoc] at htext
    cases hkeyword.symm.trans (afterKeyword?_eq_some_iff.2 htext)
  | some rest =>
    obtain rfl := afterKeyword?_eq_some_iff.1 hkeyword
    simp only [first?_eq_some_iff, isWord_append_left_iff, behind_append, List.append_nil]

/-- Behind whitespace that a word follows there is no more whitespace. -/
theorem takeWhile_isWhitespace_append {blank rest : List Char}
    (hblank : ∀ ch ∈ blank, isWhitespace ch = true) (hword : IsWord rest [] word) :
    (blank ++ rest).takeWhile isWhitespace = blank ∧
      (blank ++ rest).dropWhile isWhitespace = rest := by
  obtain ⟨hne, hall, more, rfl, -⟩ := hword
  obtain ⟨ch, word, rfl⟩ := List.exists_cons_of_ne_nil hne
  have hch : isWhitespace ch = false := hall ch List.mem_cons_self
  rw [List.takeWhile_append_of_pos hblank, List.dropWhile_append_of_pos hblank]
  simp [hch]

theorem read?_spaced_eq_some_iff : read? .spaced offset keyword text = some arg ↔
    ∃ blank word, blank ≠ [] ∧ (∀ ch ∈ blank, isWhitespace ch = true) ∧
      IsWord text (keyword ++ blank) word ∧ arg = behind offset (keyword ++ blank) word := by
  unfold read?
  cases hkeyword : afterKeyword? keyword text with
  | none =>
    refine iff_of_false nofun ?_
    rintro ⟨blank, word, -, -, hword, -⟩
    obtain ⟨rest, htext, -⟩ := (isWord_append_iff _).1 hword
    cases hkeyword.symm.trans (afterKeyword?_eq_some_iff.2 htext)
  | some rest =>
    obtain rfl := afterKeyword?_eq_some_iff.1 hkeyword
    constructor
    · intro h
      simp only at h
      split at h
      · cases h
      · rename_i hblank
        obtain ⟨word, hword, rfl⟩ := first?_eq_some_iff.1 h
        refine ⟨rest.takeWhile isWhitespace, word, ?_, ?_, ?_, ?_⟩
        · exact fun hnil => hblank (List.isEmpty_iff.2 hnil)
        · exact fun ch hch => List.all_eq_true.1 List.all_takeWhile ch hch
        · have hbehind : IsWord (rest.takeWhile isWhitespace ++ rest.dropWhile isWhitespace)
              (rest.takeWhile isWhitespace) word := isWord_append_left_iff.2 hword
          rw [List.takeWhile_append_dropWhile] at hbehind
          exact (isWord_append_iff _).2 ⟨rest, rfl, hbehind⟩
        · rw [behind_append, behind_append, List.append_nil]
    · rintro ⟨blank, word, hne, hblank, hword, rfl⟩
      obtain ⟨_, htext, hword⟩ := (isWord_append_iff _).1 hword
      obtain rfl := List.append_cancel_left htext
      rw [← List.append_nil blank] at hword
      obtain ⟨rest, rfl, hbehind⟩ := (isWord_append_iff _).1 hword
      obtain ⟨htake, hdrop⟩ := takeWhile_isWhitespace_append hblank hbehind
      simp only [htake, hdrop]
      rw [if_neg fun hnil => hne (List.isEmpty_iff.1 hnil), first?_eq_some_iff]
      exact ⟨word, hbehind, by rw [behind_append, behind_append, List.append_nil]⟩

end PragmaArgument

namespace Pragma

open PragmaArgument (IsWord isWord_append_iff isWord_append_append_iff exists_isWord_iff
  read?_adjacent_eq_some_iff read?_spaced_eq_some_iff behind behind_append)

variable {pragma : Pragma} {text before lead word : List Char} {offset : Nat} {ch : Char}
  {arg : PragmaArgument}

theorem occursIn_iff : pragma.OccursIn text before lead ↔
    pragma.Leads before lead ∧ ∃ word, IsWord text lead word := by
  rw [exists_isWord_iff]
  exact ⟨fun h => ⟨h.leads, h.goesOn⟩, fun h => ⟨h.1, h.2⟩⟩

/-- What is found in a text is the argument at the first place where the pragma occurs. -/
def Finds (pragma : Pragma) (offset : Nat) (text : List Char) (arg : PragmaArgument) : Prop :=
  ∃ before lead word, pragma.FirstIn text before lead ∧ IsWord text lead word ∧
    arg = behind offset lead word

/-! ## Editions -/

theorem leads_edition_cons_iff : edition.Leads (ch :: before) lead ↔
    ∃ rest, lead = ch :: rest ∧ edition.Leads before rest := by
  constructor
  · rintro ⟨blank, hne, hblank, rfl⟩
    exact ⟨_, rfl, blank, hne, hblank, rfl⟩
  · rintro ⟨_, rfl, blank, hne, hblank, rfl⟩
    exact ⟨blank, hne, hblank, rfl⟩

/-- Behind the first code point of a text, an edition occurs where it does in the rest. -/
theorem occursIn_edition_cons_iff : edition.OccursIn (ch :: text) (ch :: before) (ch :: lead) ↔
    edition.OccursIn text before lead := by
  have hword : ∀ word, IsWord (ch :: text) (ch :: lead) word ↔ IsWord text lead word :=
    fun _ => isWord_append_append_iff [ch]
  simp only [occursIn_iff, leads_edition_cons_iff, hword, List.cons.injEq, true_and,
    exists_eq_left']

/-- An edition at the beginning of a text. -/
theorem read?_edition_eq_some_iff :
    (if ch = '@' then PragmaArgument.read? .spaced (offset + 1) Pragmas.editionKeyword text
      else none) = some arg ↔
    ∃ lead word, edition.Leads [] lead ∧ IsWord (ch :: text) lead word ∧
      arg = behind offset lead word := by
  constructor
  · intro h
    split at h
    · rename_i hat
      obtain ⟨blank, word, hne, hblank, hword, rfl⟩ := read?_spaced_eq_some_iff.1 h
      refine ⟨['@'] ++ (Pragmas.editionKeyword ++ blank), word, ⟨blank, hne, hblank, rfl⟩, ?_, ?_⟩
      · rw [hat]
        exact (isWord_append_append_iff ['@']).2 hword
      · exact behind_append offset ['@'] _ word
    · cases h
  · rintro ⟨_, word, ⟨blank, hne, hblank, rfl⟩, hword, rfl⟩
    obtain ⟨rest, htext, hrest⟩ := (isWord_append_iff ['@']).1 hword
    obtain ⟨rfl, rfl⟩ := List.cons.inj htext
    rw [if_pos rfl]
    refine read?_spaced_eq_some_iff.2 ⟨blank, word, hne, hblank, hrest, ?_⟩
    exact (behind_append offset ['@'] _ word).symm

theorem OccursIn.of_cons {first : Char}
    (h : edition.OccursIn (ch :: text) (first :: before) lead) :
    first = ch ∧ ∃ rest, lead = ch :: rest ∧ edition.OccursIn text before rest := by
  obtain ⟨rest, rfl, hleads⟩ := leads_edition_cons_iff.1 h.leads
  obtain ⟨d, hprefix, hd⟩ := h.goesOn
  obtain ⟨rfl, hrest⟩ := List.cons_prefix_cons.1 hprefix
  exact ⟨rfl, rest, rfl, hleads, d, hrest, hd⟩

/-- Where no edition stands at the beginning, the first one is the first one in the rest. -/
theorem firstIn_edition_cons_iff (hnot : ∀ lead, ¬ edition.OccursIn (ch :: text) [] lead) :
    edition.FirstIn (ch :: text) before lead ↔ ∃ before' lead', before = ch :: before' ∧
      lead = ch :: lead' ∧ edition.FirstIn text before' lead' := by
  constructor
  · rintro ⟨hoccurs, hfirst⟩
    cases before with
    | nil => exact absurd hoccurs (hnot lead)
    | cons d before =>
      obtain ⟨rfl, rest, rfl, hrest⟩ := hoccurs.of_cons
      refine ⟨before, rest, rfl, rfl, hrest, fun before' lead' h => ?_⟩
      exact Nat.le_of_succ_le_succ (hfirst _ _ (occursIn_edition_cons_iff.2 h))
  · rintro ⟨before, lead, rfl, rfl, hoccurs, hfirst⟩
    refine ⟨occursIn_edition_cons_iff.2 hoccurs, fun before' lead' h => ?_⟩
    cases before' with
    | nil => exact absurd h (hnot lead')
    | cons d before' =>
      obtain ⟨-, rest, -, hrest⟩ := h.of_cons
      exact Nat.succ_le_succ (hfirst before' rest hrest)

theorem finds_edition_cons_iff (hnot : ∀ lead, ¬ edition.OccursIn (ch :: text) [] lead) :
    edition.Finds offset (ch :: text) arg ↔ edition.Finds (offset + ch.utf8Size) text arg := by
  have hbehind : ∀ lead word, behind offset (ch :: lead) word =
      behind (offset + ch.utf8Size) lead word :=
    fun lead word => (behind_append offset [ch] lead word).symm
  constructor
  · rintro ⟨before, lead, word, hfirst, hword, rfl⟩
    obtain ⟨before, lead, rfl, rfl, hrest⟩ := (firstIn_edition_cons_iff hnot).1 hfirst
    exact ⟨before, lead, word, hrest, (isWord_append_append_iff [ch]).1 hword, hbehind lead word⟩
  · rintro ⟨before, lead, word, hfirst, hword, rfl⟩
    refine ⟨ch :: before, ch :: lead, word, ?_, ?_, (hbehind lead word).symm⟩
    · exact (firstIn_edition_cons_iff hnot).2 ⟨before, lead, rfl, rfl, hfirst⟩
    · exact (isWord_append_append_iff [ch]).2 hword

theorem findEdition?_eq_some_iff :
    Pragmas.findEdition? offset text = some arg ↔ edition.Finds offset text arg := by
  induction text generalizing offset with
  | nil =>
    refine iff_of_false nofun ?_
    rintro ⟨before, lead, word, ⟨⟨-, d, hprefix, -⟩, -⟩, -⟩
    cases (List.append_eq_nil_iff.1 (List.prefix_nil.1 hprefix)).2
  | cons ch text ih =>
    rw [Pragmas.findEdition?]
    cases hhere : (if ch = '@' then
      PragmaArgument.read? .spaced (offset + 1) Pragmas.editionKeyword text else none) with
    | some found =>
      obtain ⟨lead, word, hleads, hword, rfl⟩ := read?_edition_eq_some_iff.1 hhere
      have hoccurs := occursIn_iff.2 ⟨hleads, word, hword⟩
      constructor
      · rintro ⟨⟩
        exact ⟨[], lead, word, ⟨hoccurs, fun _ _ _ => Nat.zero_le _⟩, hword, rfl⟩
      · rintro ⟨before, lead', word', hfirst, hword', rfl⟩
        -- Nothing is in front of the first edition, since one stands at the beginning.
        obtain rfl := List.length_eq_zero_iff.1 (Nat.le_zero.1 (hfirst.first [] lead hoccurs))
        exact hhere.symm.trans
          (read?_edition_eq_some_iff.2 ⟨lead', word', hfirst.occurs.leads, hword', rfl⟩)
    | none =>
      refine ih.trans (finds_edition_cons_iff fun lead hoccurs => ?_).symm
      obtain ⟨hleads, word, hword⟩ := occursIn_iff.1 hoccurs
      cases hhere.symm.trans (read?_edition_eq_some_iff.2 ⟨lead, word, hleads, hword, rfl⟩)

/-! ## Addresses of source maps -/

/-- The opening delimiter of a comment has two code points, and then comes the number sign. -/
theorem leads_sourceMappingUrl_iff : sourceMappingUrl.Leads before lead ↔ before = [] ∧
    ∃ second, (second = '/' ∨ second = '*') ∧
      lead = ['/', second, '#'] ++ Pragmas.sourceMappingUrlKeyword := by
  refine and_congr_right fun _ => ?_
  constructor
  · rintro (rfl | rfl)
    · exact ⟨'/', .inl rfl, rfl⟩
    · exact ⟨'*', .inr rfl, rfl⟩
  · rintro ⟨second, rfl | rfl, rfl⟩
    · exact .inl rfl
    · exact .inr rfl

theorem behind_sourceMappingUrl {second : Char} (h : second = '/' ∨ second = '*') :
    behind (offset + 3) Pragmas.sourceMappingUrlKeyword word =
      behind offset (['/', second, '#'] ++ Pragmas.sourceMappingUrlKeyword) word := by
  have hsize : Utf8.size ['/', second, '#'] = 3 := by
    obtain rfl | rfl := h
    · rfl
    · rfl
  rw [← behind_append, hsize]

theorem findSourceMappingUrl?_eq_some_iff (hopened : ['/', '/'] <+: text ∨ ['/', '*'] <+: text) :
    Pragmas.findSourceMappingUrl? offset text = some arg ↔
      sourceMappingUrl.Finds offset text arg := by
  constructor
  · intro h
    unfold Pragmas.findSourceMappingUrl? at h
    split at h
    · rename_i first second rest
      obtain ⟨word, hword, rfl⟩ := read?_adjacent_eq_some_iff.1 h
      have hopening : first = '/' ∧ (second = '/' ∨ second = '*') := by
        simpa [List.cons_prefix_cons, eq_comm, ← and_or_left] using hopened
      obtain ⟨rfl, hsecond⟩ := hopening
      have hleads := leads_sourceMappingUrl_iff.2 ⟨rfl, second, hsecond, rfl⟩
      have hbehind := (isWord_append_append_iff ['/', second, '#']).2 hword
      have hoccurs := occursIn_iff.2 ⟨hleads, word, hbehind⟩
      exact ⟨[], _, word, ⟨hoccurs, fun _ _ _ => Nat.zero_le _⟩, hbehind,
        behind_sourceMappingUrl hsecond⟩
    · cases h
  · rintro ⟨before, lead, word, hfirst, hword, rfl⟩
    obtain ⟨-, second, hsecond, rfl⟩ := leads_sourceMappingUrl_iff.1 hfirst.occurs.leads
    obtain ⟨rest, rfl, hrest⟩ := (isWord_append_iff _).1 hword
    rw [← behind_sourceMappingUrl hsecond]
    exact read?_adjacent_eq_some_iff.2 ⟨word, hrest, rfl⟩

/-! ## All pragmas of a comment -/

/-- Where a pragma occurs, there is a first place where it does. -/
theorem OccursIn.exists_firstIn (h : pragma.OccursIn text before lead) :
    ∃ before lead, pragma.FirstIn text before lead := by
  classical
  have hsome : ∃ n before lead, pragma.OccursIn text before lead ∧ before.length = n :=
    ⟨_, before, lead, h, rfl⟩
  obtain ⟨before, lead, hoccurs, hlength⟩ := Nat.find_spec hsome
  refine ⟨before, lead, hoccurs, fun before' lead' h' => ?_⟩
  rw [hlength]
  exact Nat.find_min' hsome ⟨before', lead', h', rfl⟩

/-- What is found in a comment, of which the text is opened as it has to be. -/
theorem get?_ofComment_eq_some_iff (hopened : ['/', '/'] <+: text ∨ ['/', '*'] <+: text) :
    pragma.get? (.ofComment offset text) = some arg ↔ pragma.Finds offset text arg := by
  cases pragma with
  | sourceMappingUrl => exact findSourceMappingUrl?_eq_some_iff hopened
  | edition => exact findEdition?_eq_some_iff

theorem get?_ofComment_eq_none_iff (hopened : ['/', '/'] <+: text ∨ ['/', '*'] <+: text) :
    pragma.get? (.ofComment offset text) = none ↔
      ∀ before lead, ¬ pragma.OccursIn text before lead := by
  rw [Option.eq_none_iff_forall_ne_some]
  simp only [ne_eq, get?_ofComment_eq_some_iff hopened]
  constructor
  · intro h before lead hoccurs
    obtain ⟨before, lead, hfirst⟩ := hoccurs.exists_firstIn
    obtain ⟨-, word, hword⟩ := occursIn_iff.1 hfirst.occurs
    exact h _ ⟨before, lead, word, hfirst, hword, rfl⟩
  · rintro h arg ⟨before, lead, -, hfirst, -⟩
    exact h before lead hfirst.occurs

end Pragma

end Lexis
