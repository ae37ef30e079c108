import Lexis.Proofs.Literal.Enclosed
import Lexis.Proofs.Literal.Writing

/-!
# Lexing undoes quoting

A text that is written in a body, by whatever pieces, is what the token of the literal denotes.
Numbers in templates are the only exception: the brace of a number opens an interpolation, so that a
text survives in a template if and only if it is written without numbers.
-/

namespace Lexis

open CharClass

open Scanner (quotedLexeme)

/-! ## Strings and characters -/

/-- A text that is written by pieces in a string or a character is read back from its token. -/
theorem decode_enclose {style : QuoteStyle}
    (hstyle : style = .string ∨ style = .tripleString ∨ style = .character) (pieces : List Piece)
    (hfits : ∀ piece ∈ pieces, piece.Fits style)
    (hlength : style = .character → pieces.length = 1) (source : Source)
    (hsource : source.contents = (style.enclose (Piece.spell pieces)).utf8Encode)
    (config : LexerConfig) :
    ∃ t, (LexedFile.ofSource source config).IsSingle source t ∧
      t.kind = (if style = .character then .charLiteral else .stringLiteral) ∧
      t.decode source.contents = .ok (String.ofList (pieces.map Piece.ch)) := by
  have hescapes : style.hasEscapes = true := by obtain rfl | rfl | rfl := hstyle <;> rfl
  have htemplate : style ≠ .template := by obtain rfl | rfl | rfl := hstyle <;> nofun
  have hkind : style.kind .closed =
      if style = .character then .charLiteral else .stringLiteral := by
    obtain rfl | rfl | rfl := hstyle <;> rfl
  have hcrosses := Piece.crosses_spell hescapes hfits (fun h => absurd h htemplate) style.closing
  obtain ⟨hsingle, hquotes⟩ := QuoteStyle.isSingle_token config hsource hcrosses
  refine ⟨_, hsingle, QuoteStyle.kind_token.trans hkind, hquotes.decode_eq ?_ ?_⟩
  · rw [QuoteStyle.decodeBody, if_pos hescapes]
    exact Piece.unescape_spell hfits _
  · intro hcharacter
    rw [List.length_map, hlength hcharacter]

/-- One piece of each kind, for a text of four code points. -/
def samplePieces : List Piece := [
  ⟨'é', .verbatim⟩, ⟨'A', .hex ⟨4, false⟩ ⟨1, false⟩⟩, ⟨'\n', .simple 'n'⟩,
  ⟨'J', .number [⟨0, false⟩, ⟨4, false⟩, ⟨10, true⟩]⟩]

def sampleString : Source := ⟨"sample", "\"é\\x41\\n\\u\x7b04A\x7d\"".toUTF8, 0, by decide⟩

theorem decode_enclose_samplePieces :
    ∃ t, (LexedFile.ofSource sampleString {}).IsSingle sampleString t ∧ t.kind = .stringLiteral ∧
      t.decode sampleString.contents = .ok "éA\nJ" :=
  decode_enclose (.inl rfl) samplePieces (by decide) nofun sampleString rfl {}

/-! ## Templates -/

namespace Piece

variable {pieces : List Piece}

/-- A body with a number is crossed up to a brace. -/
theorem exists_crosses_brace (hfits : ∀ piece ∈ pieces, piece.Fits .template)
    (hnumber : ∃ piece ∈ pieces, piece.isNumber = true) (behind : List Char) :
    ∃ passed rest, spell pieces ++ behind = passed ++ '\x7b' :: rest ∧
      QuoteStyle.template.Crosses passed ('\x7b' :: rest) := by
  induction pieces with
  | nil => simp at hnumber
  | cons piece pieces ih =>
    rw [List.forall_mem_cons] at hfits
    rw [spell, List.flatMap_cons, List.append_assoc]
    by_cases hfirst : piece.isNumber = true
    · obtain ⟨ch, writing⟩ := piece
      cases writing with
      | number digits =>
        have hescape : 'u' ≠ '\r' := by decide
        -- The escape covers the letter only, and the brace is next.
        exact ⟨['\\', 'u'], _, rfl, QuoteStyle.crosses_escape rfl hescape _⟩
      | _ => cases hfirst
    · have hlater : ∃ piece ∈ pieces, piece.isNumber = true := by simpa [hfirst] using hnumber
      obtain ⟨passed, rest, heq, hcrosses⟩ := ih hfits.2 hlater
      refine ⟨piece.spelling ++ passed, rest, ?_, ?_⟩
      · rw [List.append_assoc, ← heq]
        rfl
      · have hplain : piece.isNumber = false := eq_false_of_ne_true hfirst
        exact (crosses_spelling rfl hfits.1 (fun _ => hplain) _).append hcrosses

end Piece

/-- A template that is crossed up to a brace begins with a head. -/
theorem LexedFile.head?_tokens_of_brace {source : Source} {passed rest : List Char}
    (config : LexerConfig)
    (hsource : source.contents = ('\x60' :: (passed ++ '\x7b' :: rest)).utf8Encode)
    (hcrosses : QuoteStyle.template.Crosses passed ('\x7b' :: rest)) :
    ∃ t, (ofSource source config).tokens.head? = some t ∧ t.kind = .templateHead := by
  have hcloser : QuoteStyle.template.closing? ('\x7b' :: rest) =
      some (['\x7b'], .interpolation) := rfl
  have hscan : ∀ c : Cursor, c.Started → c.text = '\x60' :: (passed ++ '\x7b' :: rest) →
      ∃ c', Lexer.scanAt c '\x60' = .ok (quotedLexeme .templateHead
        QuoteStyle.template.flags (QuoteStyle.template.value? passed)) c' := by
    intro c h hc
    obtain ⟨c', hscan, -⟩ := Lexer.scanAt_of_style? h hc rfl hc hcrosses hcloser
    exact ⟨c', hscan⟩
  have hkind := Scanner.kind_quotedLexeme .templateHead QuoteStyle.template.flags
    (QuoteStyle.template.value? passed)
  obtain ⟨c', hhead⟩ := head?_tokens config hsource (by decide) (by decide) hscan
    (by rw [hkind]; rfl) (Scanner.problem?_quotedLexeme ..)
  exact ⟨_, hhead, hkind⟩

/-- A text that is written by pieces in a template is read back from a single token exactly if no
piece is a number. -/
theorem decode_template_iff (pieces : List Piece) (hfits : ∀ piece ∈ pieces, piece.Fits .template)
    (source : Source)
    (hsource : source.contents = (QuoteStyle.template.enclose (Piece.spell pieces)).utf8Encode)
    (config : LexerConfig) :
    (∃ t, (LexedFile.ofSource source config).IsSingle source t ∧ t.kind = .stringLiteral ∧
        t.decode source.contents = .ok (String.ofList (pieces.map Piece.ch))) ↔
      ∀ piece ∈ pieces, piece.isNumber = false := by
  constructor
  · rintro ⟨t, hsingle, hkind, -⟩
    by_contra hnot
    have hnumber : ∃ piece ∈ pieces, piece.isNumber = true := by simpa using hnot
    obtain ⟨passed, rest, htext, hcrosses⟩ :=
      Piece.exists_crosses_brace hfits hnumber QuoteStyle.template.closing
    rw [QuoteStyle.enclose, List.append_assoc, htext] at hsource
    obtain ⟨head, hhead, hbroken⟩ :=
      LexedFile.head?_tokens_of_brace config hsource hcrosses
    rw [hsingle.tokens_eq, List.head?_cons, Option.some.injEq] at hhead
    rw [← hhead, hkind] at hbroken
    cases hbroken
  · intro hplain
    have hcrosses := Piece.crosses_spell rfl hfits (fun _ => hplain) QuoteStyle.template.closing
    obtain ⟨hsingle, hquotes⟩ := QuoteStyle.isSingle_token config hsource hcrosses
    have hcharacter : QuoteStyle.template ≠ .character := by decide
    have hdecode := hquotes.decode_eq (Piece.unescape_spell hfits _)
      fun hstyle => absurd hstyle hcharacter
    exact ⟨_, hsingle, QuoteStyle.kind_token, hdecode⟩

def sampleTemplate : Source := ⟨"sample", "\x60é\\x41\\n\x60".toUTF8, 0, by decide⟩

theorem decode_template_samplePieces :
    ∃ t, (LexedFile.ofSource sampleTemplate {}).IsSingle sampleTemplate t ∧
      t.kind = .stringLiteral ∧ t.decode sampleTemplate.contents = .ok "éA\n" :=
  (decode_template_iff (samplePieces.take 3) (by decide) sampleTemplate rfl {}).2 (by decide)

/-- The code point A, written as a number in a template. -/
def numberTemplate : Source := ⟨"number", "\x60\\u\x7b41\x7d\x60".toUTF8, 0, by decide⟩

theorem not_isSingle_numberTemplate :
    (∃ piece : Piece, piece.ch = 'A' ∧ piece.Fits .template ∧
        numberTemplate.contents = (QuoteStyle.template.enclose piece.spelling).utf8Encode) ∧
      (LexedFile.ofSource numberTemplate {}).kinds =
        [.templateHead, .intLiteral, .operator .closeBrace] ∧
      ¬ ∃ t, (LexedFile.ofSource numberTemplate {}).IsSingle numberTemplate t := by
  have hkinds : (LexedFile.ofSource numberTemplate {}).kinds =
      [.templateHead, .intLiteral, .operator .closeBrace] := by decide +kernel
  refine ⟨⟨⟨'A', .number [⟨4, false⟩, ⟨1, false⟩]⟩, rfl, by decide, rfl⟩, hkinds, ?_⟩
  rintro ⟨t, hsingle⟩
  rw [LexedFile.kinds, hsingle.tokens_eq] at hkinds
  simp at hkinds

/-! ## Raw strings -/

namespace QuoteStyle

/-- A quote is not found among number signs. -/
theorem replicate_prefix_of_append {hashes : Nat} {body more : List Char}
    (h : List.replicate hashes '#' <+: body ++ '"' :: more) :
    List.replicate hashes '#' <+: body := by
  induction hashes generalizing body with
  | zero => exact List.nil_prefix
  | succ hashes ih =>
    cases body with
    | nil => exact absurd (List.cons_prefix_cons.1 h).1 (by decide)
    | cons ch body =>
      rw [List.replicate_succ, List.cons_append, List.cons_prefix_cons] at h
      rw [List.replicate_succ, List.cons_prefix_cons]
      exact ⟨h.1, ih h.2⟩

theorem crosses_of_not_infix {hashes : Nat} {body : List Char}
    (h : ¬ (raw hashes).closing <:+: body) : (raw hashes).Crosses body (raw hashes).closing := by
  induction body with
  | nil => exact .nil _
  | cons ch body ih =>
    have hrest := ih fun hheld => h (hheld.trans (List.suffix_cons ch body).isInfix)
    have hunit : (raw hashes).IsUnit [ch] (body ++ (raw hashes).closing) :=
      .single ch _ fun _ => rfl
    refine .cons hunit ⟨rfl, ?_⟩ hrest
    -- A closer that began here and ran on into the real one would end in front of its quote.
    have hnot : ¬ (raw hashes).closing <+: ch :: (body ++ (raw hashes).closing) := by
      intro hcloser
      obtain ⟨rfl, hsigns⟩ := List.cons_prefix_cons.1 hcloser
      have hinside : (raw hashes).closing <+: '"' :: body :=
        List.cons_prefix_cons.2 ⟨rfl, replicate_prefix_of_append hsigns⟩
      exact h hinside.isInfix
    simpa [closing?, closers, closing, List.isPrefixOf_iff_prefix] using hnot

end QuoteStyle

/-- A text that does not hold the closing delimiter is read back from a raw string as it is. -/
theorem decode_raw (hashes : Nat) (body : List Char)
    (hbody : ¬ '"' :: List.replicate hashes '#' <:+: body) (source : Source)
    (hsource : source.contents = ((QuoteStyle.raw hashes).enclose body).utf8Encode)
    (config : LexerConfig) :
    ∃ t, (LexedFile.ofSource source config).IsSingle source t ∧ t.kind = .stringLiteral ∧
      t.flags.raw = true ∧ t.decode source.contents = .ok (String.ofList body) := by
  have hcrosses := QuoteStyle.crosses_of_not_infix hbody
  obtain ⟨hsingle, hquotes⟩ := QuoteStyle.isSingle_token config hsource hcrosses
  exact ⟨_, hsingle, QuoteStyle.kind_token, hquotes.raw_eq, hquotes.decode_eq rfl nofun⟩

def sampleRaw : Source := ⟨"sample", "r##\"a\"#\\\nb\"\"##".toUTF8, 0, by decide⟩

theorem decode_raw_sampleRaw :
    ∃ t, (LexedFile.ofSource sampleRaw { lookaheadCapacity := 1 }).IsSingle sampleRaw t ∧
      t.kind = .stringLiteral ∧ t.flags.raw = true ∧
      t.decode sampleRaw.contents = .ok "a\"#\\\nb\"" :=
  decode_raw 2 ['a', '"', '#', '\\', '\n', 'b', '"'] (by decide) sampleRaw rfl
    { lookaheadCapacity := 1 }

end Lexis
