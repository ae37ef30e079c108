/-!
# Runs of a character class

The maximal runs of consecutive scalar values that a class takes from an interval.
-/

namespace Lexis.CharClass

/-- Whether the number is a scalar value of the class. -/
def hasScalar (p : Char → Bool) (n : Nat) : Bool :=
  decide n.isValidChar && p (Char.ofNat n)

/-- Appends the runs in the interval from `n` to `last`; `open?` is the start of a run that reaches
up to `n`. -/
def runsFrom (p : Char → Bool) (last n : Nat) (open? : Option Nat) (runs : Array (Nat × Nat)) :
    Array (Nat × Nat) :=
  if n ≤ last then
    match hasScalar p n, open? with
    | true, none => runsFrom p last (n + 1) (some n) runs
    | false, some first => runsFrom p last (n + 1) none (runs.push (first, n - 1))
    | _, _ => runsFrom p last (n + 1) open? runs
  else
    match open? with
    | some first => runs.push (first, n - 1)
    | none => runs
termination_by last + 1 - n

/-- The maximal runs of the class in the interval from `first` to `last`, both included. -/
def runs (p : Char → Bool) (first last : Nat) : Array (Nat × Nat) :=
  runsFrom p last first none #[]

end Lexis.CharClass
