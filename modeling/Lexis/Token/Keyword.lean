/-!
# Keywords

The reserved names. A name is a keyword exactly when it is spelled like one.
-/

namespace Lexis

inductive Keyword where
  | kwAs
  | kwAsync
  | kwAwait
  | kwBreak
  | kwContinue
  | kwElse
  | kwEnum
  | kwExtern
  | kwFalse
  | kwFn
  | kwFor
  | kwFork
  | kwFrom
  | kwIf
  | kwImpl
  | kwIn
  | kwIs
  | kwLet
  | kwLoop
  | kwMatch
  | kwMod
  | kwPub
  | kwReturn
  | kwSelf
  | kwSelfType
  | kwShow
  | kwStruct
  | kwTandem
  | kwTrait
  | kwTrue
  | kwTry
  | kwType
  | kwUnknown
  | kwUse
  | kwVoid
  | kwWhere
  | kwWhile
  deriving DecidableEq, Inhabited

namespace Keyword

def spelling : Keyword → String
  | .kwAs => "as"
  | .kwAsync => "async"
  | .kwAwait => "await"
  | .kwBreak => "break"
  | .kwContinue => "continue"
  | .kwElse => "else"
  | .kwEnum => "enum"
  | .kwExtern => "extern"
  | .kwFalse => "false"
  | .kwFn => "fn"
  | .kwFor => "for"
  | .kwFork => "fork"
  | .kwFrom => "from"
  | .kwIf => "if"
  | .kwImpl => "impl"
  | .kwIn => "in"
  | .kwIs => "is"
  | .kwLet => "let"
  | .kwLoop => "loop"
  | .kwMatch => "match"
  | .kwMod => "mod"
  | .kwPub => "pub"
  | .kwReturn => "return"
  | .kwSelf => "self"
  | .kwSelfType => "Self"
  | .kwShow => "show"
  | .kwStruct => "struct"
  | .kwTandem => "tandem"
  | .kwTrait => "trait"
  | .kwTrue => "true"
  | .kwTry => "try"
  | .kwType => "type"
  | .kwUnknown => "unknown"
  | .kwUse => "use"
  | .kwVoid => "void"
  | .kwWhere => "where"
  | .kwWhile => "while"

/-- Every keyword, once. -/
def all : List Keyword := [
  .kwAs, .kwAsync, .kwAwait, .kwBreak, .kwContinue, .kwElse, .kwEnum, .kwExtern, .kwFalse, .kwFn,
  .kwFor, .kwFork, .kwFrom, .kwIf, .kwImpl, .kwIn, .kwIs, .kwLet, .kwLoop, .kwMatch, .kwMod,
  .kwPub, .kwReturn, .kwSelf, .kwSelfType, .kwShow, .kwStruct, .kwTandem, .kwTrait, .kwTrue,
  .kwTry, .kwType, .kwUnknown, .kwUse, .kwVoid, .kwWhere, .kwWhile]

def ofSpelling? (name : String) : Option Keyword :=
  all.find? fun k => k.spelling == name

end Keyword

end Lexis
