import Lexis.Lexer.Converted
import Lexis.Proofs.Lexer.Ending
import Lexis.Proofs.Number.Decimal
import Lexis.Proofs.Scanner.Faults
import Lexis.Proofs.Scanner.Numerals

/-!
# Conversions of decimals

A lexer hands only unsigned decimals to a conversion. If that gives them values, the lexer comes to
the same as one that computes them from their digits, as far as the values are the same
(`drivenBy_eq`): no number is malformed.
-/

namespace Lexis

/-- The conversion refuses no unsigned decimal. -/
def Conversion.Accepts (convert : Conversion) : Prop :=
  ∀ text, IsDecimal text → (convert text).isSome

/-- Every literal that is a decimal floating-point number is given a value, and it is the one that
its digits denote as far as `view` tells them apart. -/
def Conversion.Agrees (convert : Conversion)
    (view : Option LiteralValue → Option LiteralValue) : Prop :=
  ∀ whole fraction? exponent? text, (Numeral.decimal whole fraction? exponent?).WrittenAs text →
    (Numeral.decimal whole fraction? exponent?).isFloat = true →
      ∃ bits, convert (withoutSeparators text) = some bits ∧
        view (some (.float bits)) = view (some (Numeral.decimal whole fraction? exponent?).value)

theorem Conversion.Accepts.agrees {convert : Conversion} (h : convert.Accepts) :
    convert.Agrees fun _ => none := by
  intro whole fraction? exponent? text hwritten _
  obtain ⟨bits, hbits⟩ := Option.isSome_iff_exists.1 (h _ ⟨_, hwritten.decimalText⟩)
  exact ⟨bits, hbits, rfl⟩

theorem accepts_ofText? : Conversion.Accepts Binary64.ofText? := fun _ => Binary64.isSome_ofText?

theorem agrees_ofText? : Conversion.Agrees Binary64.ofText? id := by
  intro whole fraction? exponent? text hwritten hfloat
  refine ⟨_, Binary64.ofText?_eq hwritten.decimalText, ?_⟩
  rw [Numeral.value_of_isFloat hfloat]

variable {view : Option LiteralValue → Option LiteralValue} {convert : Conversion}

def Lexeme.mapValue (view : Option LiteralValue → Option LiteralValue) (a : Lexeme) : Lexeme :=
  { a with value? := view a.value? }

theorem Lexeme.eq_of_mapValue {a b : Lexeme} (h : a.mapValue view = b.mapValue view) :
    ∃ value?, a = { b with value? } ∧ view value? = view b.value? := by
  obtain ⟨hkind, hflags, hview, hproblem, hpragmas, hcrosses⟩ := Lexeme.mk.inj h
  refine ⟨a.value?, ?_, hview⟩
  rw [← hkind, ← hflags, ← hproblem, ← hpragmas, ← hcrosses]

def Token.mapValue (view : Option LiteralValue → Option LiteralValue) (t : Token) : Token :=
  { t with value? := view t.value? }

theorem Token.eq_of_mapValue {t t' : Token} (h : t.mapValue view = t'.mapValue view) :
    ∃ value?, t = { t' with value? } ∧ view value? = view t'.value? := by
  obtain ⟨hkind, hoffset, hlen, hflags, hview⟩ := Token.mk.inj h
  refine ⟨t.value?, ?_, hview⟩
  rw [← hkind, ← hoffset, ← hlen, ← hflags]

namespace Scanner

variable {c c' : Cursor} {r r' : EStateM.Result LexError Cursor Lexeme} {a : Lexeme}

/-- The result of a scan, its value seen through `view`. -/
def viewed (view : Option LiteralValue → Option LiteralValue) :
    EStateM.Result LexError Cursor Lexeme → EStateM.Result LexError Cursor Lexeme
  | .ok a c => .ok (a.mapValue view) c
  | .error e c => .error e c

theorem viewed_eq_ok (h : viewed view r = viewed view r') (hok : r = .ok a c) :
    ∃ b value?, r' = .ok b c ∧ a = { b with value? } ∧ view value? = view b.value? := by
  subst hok
  cases r' with
  | error => cases h
  | ok b c' =>
    obtain ⟨hvalue, rfl⟩ := EStateM.Result.ok.inj h
    obtain ⟨value?, ha, hview⟩ := Lexeme.eq_of_mapValue hvalue
    exact ⟨b, value?, rfl, ha, hview⟩

theorem viewed_eq_error {e : LexError} (h : viewed view r = viewed view r')
    (herror : r = .error e c) : r' = .error e c := by
  subst herror
  cases r' with
  | ok => cases h
  | error e' c' =>
    obtain ⟨rfl, rfl⟩ := EStateM.Result.error.inj h
    rfl

theorem viewed_bind {α : Type} {s : Scanner α} {k k' : α → Scanner Lexeme}
    (h : ∀ a c', s c = .ok a c' → viewed view (k a c') = viewed view (k' a c')) :
    viewed view ((s >>= k) c) = viewed view ((s >>= k') c) := by
  simp only [Bind.bind, EStateM.bind]
  cases hs : s c with
  | ok a c' => exact h a c' hs
  | error e c' => rfl

theorem viewed_numberLexeme {v w : LiteralValue} (h : c.Started)
    (hview : view (some v) = view (some w)) (hkind : numberKind v = numberKind w) :
    viewed view (numberLexeme v c) = viewed view (numberLexeme w c) := by
  rw [numberLexeme_eq v h, numberLexeme_eq w h]
  split
  · rfl
  · simp only [viewed, Lexeme.mapValue, hview, hkind]

/-- A conversion is given the text of a literal, and a value that looks the same comes of it. -/
theorem viewed_convertedLexeme {w : List Nat} {f : Option (List Nat)} {e : Option Exponent}
    {text : List Char} (hagrees : convert.Agrees view) (hpass : c.Passes text c')
    (hwritten : (Numeral.decimal w f e).WrittenAs text) :
    viewed view (convertedLexeme convert c.index (.decimal w f e) c') =
      viewed view (numberLexeme (Numeral.decimal w f e).value c') := by
  have hlexeme : ∀ {value : LiteralValue},
      convertedValue? convert (.decimal w f e) text.utf8Encode = some value →
        convertedLexeme convert c.index (.decimal w f e) c' = numberLexeme value c' := by
    intro value hvalue
    rw [← hpass.slice_eq] at hvalue
    exact convertedLexeme_of_some hvalue
  by_cases hfloat : (Numeral.decimal w f e).isFloat = true
  · obtain ⟨bits, hbits, hview⟩ := hagrees w f e text hwritten hfloat
    obtain ⟨bits', hvalue⟩ := (Numeral.isFloat_iff _).1 hfloat
    have hconverted : convertedValue? convert (.decimal w f e) text.utf8Encode =
        some (.float bits) := by
      rw [convertedValue?, if_pos hfloat, Utf8.fromUTF8?_utf8Encode, Option.bind_some,
        String.toList_ofList, hbits, Option.map_some]
    rw [hlexeme hconverted]
    exact viewed_numberLexeme hpass.started hview (by rw [hvalue]; rfl)
  · rw [hlexeme (if_neg hfloat)]

theorem viewed_decimalNumberBy (hagrees : convert.Agrees view) (h : c.Started)
    (hbegins : BeginsDecimal c.text) :
    viewed view (decimalNumberBy convert c) = viewed view (decimalNumber c) := by
  have hby : decimalNumberBy convert c = (whole >>= fun w => fraction >>= fun f => exponent >>=
      fun e => convertedLexeme convert c.index (.decimal w f e)) c := rfl
  rw [hby]
  refine viewed_bind fun w c₁ hwhole => viewed_bind fun f c₂ hfraction => ?_
  refine viewed_bind fun e c₃ hexponent => ?_
  obtain ⟨text, hpass, hwritten⟩ := decimal_sound h hbegins hwhole hfraction hexponent
  exact viewed_convertedLexeme hagrees hpass hwritten

end Scanner

namespace Lexer

variable {l : Lexer} {c : Cursor} {ch : Char}

theorem viewed_scanAtBy (hagrees : convert.Agrees view) (hcur : c.current = .scalar ch) :
    Scanner.viewed view (scanAtBy convert c ch) = Scanner.viewed view (scanAt c ch) := by
  have hahead := Cursor.passes_lookahead (.of_scalar hcur) 3
  unfold scanAtBy scanAt
  by_cases hnumber : Opening.of ch (c.lookahead 3).1 = .number
  · have hbegins : Scanner.BeginsDecimal (c.lookahead 3).2.text := by
      rw [hahead.text_eq_of_nil, Cursor.text_of_scalar hcur]
      rw [c.lookahead_fst] at hnumber
      exact Opening.beginsDecimal_of hnumber
    rw [hnumber]
    exact Scanner.viewed_decimalNumberBy hagrees hahead.started hbegins
  · rw [Opening.scannerBy_of_ne convert hnumber]

/-- The result of a call, the value of its token seen through `view`. -/
def viewed {ε : Type} (view : Option LiteralValue → Option LiteralValue) :
    Except ε Token → Except ε Token := Except.map (Token.mapValue view)

theorem scanBy_eq (hagrees : convert.Agrees view) (h : l.cursor.Started) :
    viewed view (l.scanBy convert).1 = viewed view l.scan.1 ∧ (l.scanBy convert).2 = l.scan.2 := by
  fun_induction scanBy convert l with
  | case1 l newline c hskip ch hcur e c' hscan =>
    have hplain := Scanner.viewed_eq_error (viewed_scanAtBy hagrees hcur) hscan
    rw [scan_of_error hskip hcur hplain]
    exact ⟨rfl, rfl⟩
  | case2 l newline c hskip ch hcur lexeme c' hscan hlt hcomment ih =>
    obtain ⟨b, value?, hplain, rfl, hvalue⟩ :=
      Scanner.viewed_eq_ok (viewed_scanAtBy hagrees hcur) hscan
    obtain ⟨⟨passed, -, hpass⟩, -⟩ := scanAt_ok hcur hplain
    rw [scan_of_comment hskip hcur hplain hcomment]
    refine ih ?_
    simp only [cursor_accept]
    exact hpass.started
  | case3 l newline c hskip ch hcur lexeme c' hscan hlt hcomment =>
    obtain ⟨b, value?, hplain, rfl, hvalue⟩ :=
      Scanner.viewed_eq_ok (viewed_scanAtBy hagrees hcur) hscan
    rw [scan_of_token hskip hcur hplain (eq_false_of_ne_true hcomment)]
    refine ⟨?_, rfl⟩
    simp only [viewed, Except.map, Token.mapValue, tokenOf, hvalue]
  | case4 l newline c hskip hnot =>
    rw [scan_of_not_scalar hskip hnot]
    exact ⟨rfl, rfl⟩

theorem nextBy_eq (hagrees : convert.Agrees view) (h : l.Going) :
    viewed view (l.nextBy convert).1 = viewed view l.next.1 ∧ (l.nextBy convert).2 = l.next.2 := by
  cases hphase : l.phase with
  | finished =>
    rw [nextBy, next, hphase]
    exact ⟨rfl, rfl⟩
  | scanning =>
    rw [nextBy, next, hphase]
    exact scanBy_eq hagrees (h.resolve_left (phase_ne_finished hphase))
  | start =>
    have hnot : l.phase ≠ .finished := by simp [hphase]
    have hstart := h.resolve_left hnot
    have hahead := Cursor.passes_startsWith hstart ['#', '!']
    rw [nextBy, next, hphase]
    unfold firstBy first
    simp only
    split
    · exact ⟨rfl, rfl⟩
    · let begun : Lexer :=
        { l with cursor := (l.cursor.startsWith ['#', '!']).2, phase := .scanning }
      have hbegun : begun.cursor.Started := hahead.started
      exact scanBy_eq hagrees hbegun

/-! ## Runs -/

/-- The next token, decimals being converted; a template may go on as in `drive`. -/
def driveBy (convert : Conversion) (l : Lexer) (again : Bool) : Except Stop Token × Lexer :=
  match l.nextBy convert with
  | (.error e, l) => (.error (.fatal e), l)
  | (.ok t, l) => if again && t.kind == .operator .closeBrace then l.rescan t else (.ok t, l)

/-- The results of a run with a choice for each step, and the lexer behind it. -/
def drivenBy (convert : Conversion) (l : Lexer) : List Bool → List (Except Stop Token) × Lexer
  | [] => ([], l)
  | again :: choices =>
    ((l.driveBy convert again).1 :: ((l.driveBy convert again).2.drivenBy convert choices).1,
      ((l.driveBy convert again).2.drivenBy convert choices).2)

theorem driveBy_eq (hagrees : convert.Agrees view) (h : l.Going) (again : Bool) :
    viewed view (l.driveBy convert again).1 = viewed view (l.drive again).1 ∧
      (l.driveBy convert again).2 = (l.drive again).2 := by
  obtain ⟨hresult, hbehind⟩ := nextBy_eq hagrees h
  unfold driveBy drive
  cases hnext : l.next with
  | mk result m =>
    cases hnextBy : l.nextBy convert with
    | mk result' m' =>
      rw [hnext, hnextBy] at hresult hbehind
      obtain rfl : m' = m := hbehind
      cases result with
      | error e =>
        cases result' with
        | ok => cases hresult
        | error e' =>
          cases hresult
          exact ⟨rfl, rfl⟩
      | ok t =>
        cases result' with
        | error => cases hresult
        | ok t' =>
          obtain ⟨value?, rfl, hvalue⟩ := Token.eq_of_mapValue (Except.ok.inj hresult)
          simp only
          split
          -- A template goes on at a brace whatever the value of the token is.
          · exact ⟨rfl, rfl⟩
          · simp only [viewed, Except.map, Token.mapValue, hvalue, and_self]

theorem going_drive (h : l.Going) (again : Bool) : (l.drive again).2.Going := by
  have hgoing := (leaves_next h).going
  have hdrive := l.drives again
  generalize l.drive again = found at hdrive ⊢
  cases hdrive with
  | broken hnext | returned hnext =>
    rw [hnext] at hgoing
    exact hgoing
  | @resumed brace l' hnext =>
    rw [hnext] at hgoing
    exact (leaves_rescan hgoing brace).going

/-- A run that converts decimals is one that computes their values, but for what `view` hides. -/
theorem drivenBy_eq (hagrees : convert.Agrees view) (h : l.Going) (choices : List Bool) :
    (l.drivenBy convert choices).1.map (viewed view) = (l.driven choices).1.map (viewed view) ∧
      (l.drivenBy convert choices).2 = (l.driven choices).2 := by
  induction choices generalizing l with
  | nil => exact ⟨rfl, rfl⟩
  | cons again choices ih =>
    obtain ⟨hresult, hbehind⟩ := driveBy_eq hagrees h again
    obtain ⟨hresults, hlast⟩ := ih (going_drive h again)
    rw [drivenBy, driven, hbehind, List.map_cons, List.map_cons, hresult, hresults]
    exact ⟨rfl, hlast⟩

/-- The values that are computed from digits are those that a conversion reads from text. -/
theorem drivenBy_ofText? (h : l.Going) (choices : List Bool) :
    l.drivenBy Binary64.ofText? choices = l.driven choices := by
  obtain ⟨hresults, hlast⟩ := drivenBy_eq agrees_ofText? h choices
  have hid : ∀ results : List (Except Stop Token), results.map (viewed id) = results := by
    intro results
    have hsame : ∀ result : Except Stop Token, viewed id result = result := by
      intro result
      cases result <;> rfl
    rw [funext hsame, List.map_id']
  rw [hid, hid] at hresults
  exact Prod.ext hresults hlast

/-! ## Numbers without a value -/

theorem spares_scan {e : LexError} (h : l.scan.1 = .error e) : e.kind ≠ .malformedNumber := by
  fun_induction scan l with
  | case1 l newline c hskip ch hcur e' c' hscan =>
    cases h
    exact Opening.spares_scanner _ _ _ _ hscan
  | case2 => rename_i ih; exact ih h
  | case3 => cases h
  | case4 => cases h

theorem spares_next {e : LexError} (h : l.next.1 = .error e) : e.kind ≠ .malformedNumber := by
  unfold next at h
  split at h
  · cases h
  · exact spares_scan h
  · unfold first at h
    simp only at h
    split at h
    · unfold scanHashbang at h
      cases h
    · exact spares_scan h

theorem spares_rescan {brace : Token} {e : LexError}
    (h : (l.rescan brace).1 = .error (.fatal e)) : e.kind ≠ .malformedNumber := by
  have hrescan := l.rescans brace
  generalize l.rescan brace = found at hrescan h
  cases hrescan with
  | finished | refused | resumed => cases h
  | broken _ hfound =>
    cases h
    exact (Scanner.spares_templateContinuation _ _).malformed _ _ _ hfound

theorem spares_drive {again : Bool} {e : LexError} (h : (l.drive again).1 = .error (.fatal e)) :
    e.kind ≠ .malformedNumber := by
  have hdrive := l.drives again
  generalize l.drive again = found at hdrive h
  cases hdrive with
  | broken hnext =>
    cases h
    exact spares_next (congrArg Prod.fst hnext)
  | resumed => exact spares_rescan h
  | returned => cases h

theorem spares_driven {choices : List Bool} {e : LexError}
    (h : .error (.fatal e) ∈ (l.driven choices).1) : e.kind ≠ .malformedNumber := by
  induction choices generalizing l with
  | nil => cases h
  | cons again choices ih =>
    rw [driven, List.mem_cons] at h
    obtain hfirst | hrest := h
    · exact spares_drive hfirst.symm
    · exact ih hrest

/-- If the conversion refuses no unsigned decimal, no run ends with a malformed number. -/
theorem spares_drivenBy (haccepts : convert.Accepts) (h : l.Going) {choices : List Bool}
    {e : LexError} (hmem : .error (.fatal e) ∈ (l.drivenBy convert choices).1) :
    e.kind ≠ .malformedNumber := by
  have hseen := List.mem_map_of_mem (f := viewed fun _ => none) hmem
  rw [(drivenBy_eq haccepts.agrees h choices).1] at hseen
  obtain ⟨result, hresult, heq⟩ := List.mem_map.1 hseen
  cases result with
  | ok t => cases heq
  | error stop =>
    obtain rfl : stop = .fatal e := Except.error.inj heq
    exact spares_driven hresult

end Lexer

end Lexis
