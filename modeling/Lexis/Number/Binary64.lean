/-!
# Rounding to binary64

The bits of the binary floating-point number of 64 bits that is nearest to a fraction, ties going
to the even significand. All arithmetic is on natural numbers.
-/

namespace Lexis.Binary64

def infinity : UInt64 := 0x7FF0000000000000

/-- The integer nearest to `num / den`, of two equally near ones the even one. -/
def divRoundEven (num den : Nat) : Nat :=
  let q := num / den
  let twice := 2 * (num % den)
  if den < twice || (den == twice && q % 2 == 1) then q + 1 else q

/-- The exponent of the unit in the last place of a number near `num / den`: fifty-three binary
digits are kept, fewer where the smallest exponent cuts them off. -/
def unitExponent (num den : Nat) : Int :=
  let estimate : Int := (num.log2 : Int) - den.log2 - 52
  let tooLarge := if 0 ≤ estimate then num < den <<< (estimate.toNat + 52)
    else num <<< (-estimate).toNat < den <<< 52
  max (if tooLarge then estimate - 1 else estimate) (-1074)

/-- The bits of the number nearest to `num / den`. -/
def ofFraction (num den : Nat) : UInt64 :=
  if num = 0 then 0 else
    let e := unitExponent num den
    let units := if 0 ≤ e then divRoundEven num (den <<< e.toNat)
      else divRoundEven (num <<< (-e).toNat) den
    let bits := ((e + 1074).toNat <<< 52) + units
    if bits < infinity.toNat then UInt64.ofNat bits else infinity

def ofNat (n : Nat) : UInt64 := ofFraction n 1

/-- The bits of the number nearest to `digits`, read as a decimal integer, times ten to the power
`exponent`. Powers that lead out of range in either direction are not computed. -/
def ofDecimal (digits : List Nat) (exponent : Int) : UInt64 :=
  let significant := digits.dropWhile (· == 0)
  let n := significant.foldl (fun n d => n * 10 + d) 0
  let magnitude : Int := significant.length + exponent
  if n = 0 || magnitude < -330 then 0
  else if 310 < magnitude then infinity
  else if 0 ≤ exponent then ofFraction (n * Nat.pow 10 exponent.toNat) 1
  else ofFraction n (Nat.pow 10 (-exponent).toNat)

/-- `n` with all but its leading fifty-three binary digits rounded away. -/
def roundToPrecision (n : Nat) : Nat :=
  let unit := 1 <<< (n.log2 - 52)
  divRoundEven n unit * unit

/-- The bits of the number reached by taking in the digits of an integer one by one, rounding after
each of them. -/
def ofDigits (radix : Nat) (digits : List Nat) : UInt64 :=
  ofNat (digits.foldl (fun n d => roundToPrecision (n * radix + d)) 0)

end Lexis.Binary64
