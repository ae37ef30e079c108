import Lexis.Proofs.Beside.Basic
import Lexis.Proofs.Scanner.Kinds

/-!
# Openings agree

What begins a token is recognised in front of the end of the input as it is in front of a line feed
or a closing brace (`Opening.of_append`). This is not so of other texts: a question mark and a dot
are one operator, unless a digit follows.
-/

namespace Lexis

open CharClass

namespace Detached

variable {u y : List Char} {ch : Char}

theorem append_ne (hy : Detached y) (hfeed : '\n' ≠ ch) (hbrace : '\x7d' ≠ ch)
    (h : ∀ t, u = ch :: t → False) (t : List Char) (htext : u ++ y = ch :: t) : False := by
  cases u with
  | nil => cases hy <;> cases htext <;> contradiction
  | cons d u =>
    cases htext
    exact h _ rfl

theorem prefix_of_prefix_append {word : List Char} (hy : Detached y)
    (hword : ∀ ch ∈ word, '\n' ≠ ch ∧ '\x7d' ≠ ch) (h : word <+: u ++ y) : word <+: u := by
  induction word generalizing u with
  | nil => exact List.nil_prefix
  | cons ch word ih =>
    rw [List.forall_mem_cons] at hword
    cases u with
    | nil =>
      obtain ⟨rest, hrest⟩ := h
      have hnone : ∀ t, [] ≠ ch :: t := fun t ht => List.cons_ne_nil ch t ht.symm
      exact (hy.append_ne hword.1.1 hword.1.2 hnone _ hrest.symm).elim
    | cons d u =>
      rw [List.cons_append, List.cons_prefix_cons] at h
      rw [List.cons_prefix_cons]
      exact ⟨h.1, ih hword.2 h.2⟩

theorem take (hy : Detached y) (n : Nat) : Detached (y.take n) := by
  cases n with
  | zero => exact .nil
  | succ n =>
    cases hy with
    | nil => exact .nil
    | lineFeed => exact .lineFeed _
    | closeBrace => exact .closeBrace _

end Detached

namespace Operator

variable {u y : List Char}

/-- An operator is recognised wherever one is spelled. -/
theorem recognize?_ne_none {op : Operator} {text : List Char} (h : op.spelling.toList <+: text) :
    recognize? text ≠ none := by
  obtain ⟨rest, htext⟩ := h
  fun_cases recognize? text
  case case39 => cases op <;> simp [spelling] at htext <;> grind only
  all_goals simp

theorem recognize?_append (hne : u ≠ []) (hy : Detached y) :
    recognize? (u ++ y) = recognize? u := by
  have hdigit : y.head?.any Char.isDigit = false := hy.any_head? rfl rfl
  have hsome : recognize? u = none ∨ recognize? (u ++ y) = recognize? u := by
    fun_cases recognize? u
    any_goals exact .inr rfl
    case case39 => exact .inl rfl
    case case34 rest hnumber =>
      refine .inr (if_pos ?_)
      cases rest with
      | nil => cases hnumber
      | cons => exact hnumber
    case case35 rest hnumber =>
      refine .inr (if_neg ?_)
      cases rest with
      | nil => exact ne_true_of_eq_false hdigit
      | cons => exact hnumber
    case case21 rest hdotDot hdot =>
      right
      simp only [List.cons_append]
      rw [recognize?]
      · intro t ht
        exact hy.append_ne (by decide) (by decide) hdot _ ht
      · exact hy.append_ne (by decide) (by decide) hdot
    -- The other operators that are part of a longer one.
    all_goals
      right
      simp only [List.cons_append]
      rw [recognize?] <;> refine hy.append_ne ?_ ?_ ‹_› <;> decide
  refine hsome.elim (fun hnone => ?_) id
  rw [hnone]
  cases hop : recognize? (u ++ y) with
  | none => rfl
  | some op =>
    have hspelled := spelling_prefix_of_recognize? hop
    by_cases hbrace : op = .closeBrace
    · subst hbrace
      cases u with
      | nil => exact absurd rfl hne
      | cons ch u =>
        have hch : '\x7d' = ch := (List.cons_prefix_cons.1 hspelled).1
        subst hch
        have hspelling : closeBrace.spelling.toList <+: '\x7d' :: u := ⟨u, rfl⟩
        exact absurd hnone (recognize?_ne_none hspelling)
    · have hword : ∀ ch ∈ op.spelling.toList, '\n' ≠ ch ∧ '\x7d' ≠ ch := by
        cases op <;> first | exact absurd rfl hbrace | simp [spelling]
      exact absurd hnone (recognize?_ne_none (hy.prefix_of_prefix_append hword hspelled))

theorem recognize?_of_isIdentStart {ch : Char} (h : isIdentStart ch = true) (ahead : List Char) :
    recognize? (ch :: ahead) = none := by
  cases hop : recognize? (ch :: ahead) with
  | none => rfl
  | some op =>
    have hspelled := spelling_prefix_of_recognize? hop
    cases op <;> (obtain ⟨rfl, -⟩ := List.cons_prefix_cons.1 hspelled; cases h)

end Operator

namespace Opening

variable {ch : Char} {u y ahead : List Char}

/-- The code points at the beginning of a token that are looked at one by one. -/
def marks : List Char := ['/', '"', '\'', '\x60', 'r', '0', '.']

theorem of_of_not_mem (h : ch ∉ marks) (ahead : List Char) :
    Opening.of ch ahead = if ch.isDigit then .number else ofOther ch ahead := by
  fun_cases Opening.of ch ahead <;> simp_all [marks]

theorem of_slash {next : Char} (h : next ≠ '/') (h' : next ≠ '*') (ahead : List Char) :
    Opening.of '/' (next :: ahead) = .operator .slash := by
  simp [Opening.of, h, h']
  rfl

theorem of_r {next : Char} (h : next ≠ '"') (h' : next ≠ '#') (ahead : List Char) :
    Opening.of 'r' (next :: ahead) = .name := by
  simp [Opening.of, h, h']
  rfl

theorem of_rHash (next : Char) (ahead : List Char) :
    Opening.of 'r' ('#' :: next :: ahead) =
      if next = '"' ∨ next = '#' then .rawString
      else if isIdentStart next then .escapedName else .name := by
  by_cases hquote : next = '"'
  · simp [hquote, Opening.of]
  · by_cases hsign : next = '#'
    · simp [hsign, Opening.of]
    · simp [hquote, hsign, Opening.of]

theorem ofOther_append (ch : Char) (u : List Char) (hy : Detached y) :
    ofOther ch (u ++ y) = ofOther ch u := by
  rw [ofOther, ofOther, ← List.cons_append, Operator.recognize?_append (List.cons_ne_nil ch u) hy]

theorem head?_append_beq (hy : y.head? ≠ some ch) :
    ((u ++ y)[0]? == some ch) = (u[0]? == some ch) := by
  cases u with
  | nil => simpa [List.head?_eq_getElem?] using hy
  | cons d u => rfl

theorem of_slashes (u : List Char) (hy : y.head? ≠ some '/') :
    Opening.of '/' ('/' :: (u ++ y)) = Opening.of '/' ('/' :: u) := by
  have htext : ((u ++ y)[0]? == some '/' && (u ++ y)[1]? != some '/') =
      (u[0]? == some '/' && u[1]? != some '/') := by
    rw [head?_append_beq hy]
    cases u with
    | nil => rfl
    | cons third u => exact congrArg (_ && !·) (head?_append_beq hy)
  exact congrArg lineComment htext

theorem of_eq_string (h : ∀ rest, ahead = '"' :: '"' :: rest → False) :
    Opening.of '"' ahead = .string := by
  rw [Opening.of]
  exact h

theorem of_slash_append (next : Char) (u : List Char) (hy : Detached y) :
    Opening.of '/' (next :: (u ++ y)) = Opening.of '/' (next :: u) := by
  have hslashes : y.head? ≠ some '/' := by cases hy <;> nofun
  have hlegal : y.head? ≠ some '!' := by cases hy <;> nofun
  by_cases hslash : next = '/'
  · subst hslash
    exact of_slashes u hslashes
  · by_cases hstar : next = '*'
    · subst hstar
      exact congrArg blockComment (head?_append_beq hlegal)
    · rw [of_slash hslash hstar, of_slash hslash hstar]

theorem of_quote_append (u : List Char) (hy : Detached y) :
    Opening.of '"' (u ++ y) = Opening.of '"' u := by
  by_cases htriple : ['"', '"'] <+: u
  · obtain ⟨rest, rfl⟩ := htriple
    rfl
  · rw [of_eq_string, of_eq_string]
    · exact fun rest hrest => htriple ⟨rest, hrest.symm⟩
    · exact fun rest hrest =>
        htriple (hy.prefix_of_prefix_append (by simp) ⟨rest, hrest.symm⟩)

theorem of_r_append (next : Char) (u : List Char) (hy : Detached y) :
    Opening.of 'r' (next :: (u ++ y)) = Opening.of 'r' (next :: u) := by
  by_cases hquote : next = '"'
  · subst hquote
    rfl
  · by_cases hsign : next = '#'
    · subst hsign
      cases u with
      | nil => cases hy <;> rfl
      | cons third u => rw [List.cons_append, of_rHash, of_rHash]
    · rw [of_r hquote hsign, of_r hquote hsign]

theorem of_dot_append (next : Char) (u : List Char) (hy : Detached y) :
    Opening.of '.' (next :: (u ++ y)) = Opening.of '.' (next :: u) := by
  show (if next.isDigit then number else ofOther '.' (next :: u ++ y)) =
    if next.isDigit then number else ofOther '.' (next :: u)
  rw [ofOther_append _ _ hy]

/-- The end of the input, a line feed and a closing brace tell the same of what is before them. -/
theorem of_append (ch : Char) (u : List Char) (hy : Detached y) :
    Opening.of ch (u ++ y) = Opening.of ch u := by
  by_cases hmark : ch ∈ marks
  · simp only [marks, List.mem_cons, List.not_mem_nil, or_false] at hmark
    cases u with
    | nil => obtain rfl | rfl | rfl | rfl | rfl | rfl | rfl := hmark <;> cases hy <;> rfl
    | cons next u =>
      obtain rfl | rfl | rfl | rfl | rfl | rfl | rfl := hmark
      · exact of_slash_append next u hy
      · exact of_quote_append (next :: u) hy
      · rfl
      · rfl
      · exact of_r_append next u hy
      · rfl
      · exact of_dot_append next u hy
  · rw [of_of_not_mem hmark, of_of_not_mem hmark, ofOther_append _ _ hy]

end Opening

end Lexis
