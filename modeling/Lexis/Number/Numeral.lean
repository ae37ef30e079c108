import Lexis.Token.Literal

/-!
# Numerals

A number literal as its digits, freed of separators and markers, and the value of the digits.
Integers without a marker are exact below nineteen digits and floating-point numbers from there on;
with a marker they are exact as long as they fit into 64 bits.
-/

namespace Lexis

/-- The bases that a marker selects. -/
inductive Base where
  | binary
  | octal
  | hexadecimal
  deriving DecidableEq, Inhabited

namespace Base

def radix : Base → Nat
  | .binary => 2
  | .octal => 8
  | .hexadecimal => 16

def marker : Base → String
  | .binary => "0b"
  | .octal => "0o"
  | .hexadecimal => "0x"

/-- The base selected by a letter behind a leading zero. -/
def ofLetter? (c : Char) : Option Base :=
  if c = 'b' ∨ c = 'B' then some .binary
  else if c = 'o' ∨ c = 'O' then some .octal
  else if c = 'x' ∨ c = 'X' then some .hexadecimal
  else none

end Base

/-- The power of ten that a decimal is multiplied by. -/
structure Exponent where
  negative : Bool
  digits : List Nat
  deriving DecidableEq, Inhabited

inductive Numeral where
  | based (base : Base) (digits : List Nat)
  | decimal (whole : List Nat) (fraction? : Option (List Nat)) (exponent? : Option Exponent)
  deriving DecidableEq, Inhabited

/-- Decimal integers with at least so many digits are floating-point numbers. -/
def exactDigits : Nat := 19

/-- The integer with the given digits, unless an intermediate result does not fit into 64 bits. -/
def integerOfDigits? (radix : Nat) (digits : List Nat) : Option UInt64 :=
  (digits.foldlM (fun n d =>
    let next := n * radix + d
    if next < UInt64.size then some next else none) 0).map UInt64.ofNat

/-- The integer with the given decimal digits, computed in 64 bits. -/
def wordOfDigits (digits : List Nat) : UInt64 :=
  digits.foldl (fun n d => n * 10 + UInt64.ofNat d) 0

/-- An exponent that has come to this size takes in no further digits. Only a literal with tens of
thousands of digits could make up for such a power of ten. -/
def exponentBound : Nat := 0x10000

def Exponent.magnitude (e : Exponent) : Nat :=
  e.digits.foldl (fun n d => if n < exponentBound then n * 10 + d else n) 0

def Exponent.toInt (e : Exponent) : Int := if e.negative then -(e.magnitude : Int) else e.magnitude

namespace Numeral

/-- Whether the literal denotes a floating-point number although it may be an integer. -/
def isFloat : Numeral → Bool
  | .based base digits => (integerOfDigits? base.radix digits).isNone
  | .decimal whole fraction? exponent? =>
    fraction?.isSome || exponent?.isSome || exactDigits ≤ whole.length

def value : Numeral → LiteralValue
  | .based base digits =>
    match integerOfDigits? base.radix digits with
    | some n => .int n
    | none => .float (Binary64.ofDigits base.radix digits)
  | .decimal whole none none =>
    if exactDigits ≤ whole.length then .float (Binary64.ofDecimal whole 0)
    else .int (wordOfDigits whole)
  | .decimal whole fraction? exponent? =>
    let fraction := fraction?.getD []
    let exponent := (exponent?.map Exponent.toInt).getD 0
    .float (Binary64.ofDecimal (whole ++ fraction) (exponent - fraction.length))

/-- The value of a numeral is a floating-point number where `isFloat` says so. -/
theorem isFloat_iff (n : Numeral) : n.isFloat = true ↔ ∃ bits, n.value = .float bits := by
  cases n with
  | based base digits =>
    cases h : integerOfDigits? base.radix digits <;> simp [isFloat, value, h]
  | decimal whole fraction? exponent? =>
    cases fraction? <;> cases exponent? <;> simp [isFloat, value]
    split <;> simp_all

end Numeral

end Lexis
