import Lexis.Token.Keyword

/-!
# Looking keywords up by length

A table of the keywords under the number of bytes that they are spelled with. A text that is too
short or too long for a keyword, or does not begin with a letter, is not looked up at all; of the
others, only the keywords of their length are compared.
-/

namespace Lexis.Keyword

/-- The keywords of so many bytes, under their texts. -/
def bucket : Nat → List (String × Keyword)
  | 2 => [("as", .kwAs), ("fn", .kwFn), ("if", .kwIf), ("in", .kwIn), ("is", .kwIs)]
  | 3 => [("for", .kwFor), ("let", .kwLet), ("mod", .kwMod), ("pub", .kwPub), ("try", .kwTry),
      ("use", .kwUse)]
  | 4 => [("Self", .kwSelfType), ("else", .kwElse), ("enum", .kwEnum), ("fork", .kwFork),
      ("from", .kwFrom), ("impl", .kwImpl), ("loop", .kwLoop), ("self", .kwSelf), ("show", .kwShow),
      ("true", .kwTrue), ("type", .kwType), ("void", .kwVoid)]
  | 5 => [("async", .kwAsync), ("await", .kwAwait), ("break", .kwBreak), ("false", .kwFalse),
      ("match", .kwMatch), ("trait", .kwTrait), ("where", .kwWhere), ("while", .kwWhile)]
  | 6 => [("extern", .kwExtern), ("return", .kwReturn), ("struct", .kwStruct),
      ("tandem", .kwTandem)]
  | 7 => [("unknown", .kwUnknown)]
  | 8 => [("continue", .kwContinue)]
  | _ => []

def isAsciiLetter (b : UInt8) : Bool := 0x41 ≤ b && b ≤ 0x5A || 0x61 ≤ b && b ≤ 0x7A

/-- The keyword with the text, found in the table. -/
def lookup? (text : ByteArray) : Option Keyword :=
  if text.size < 2 || 8 < text.size || !(text[0]?.any isAsciiLetter) then none
  else ((bucket text.size).find? fun row => row.1.toUTF8.data == text.data).map Prod.snd

end Lexis.Keyword
