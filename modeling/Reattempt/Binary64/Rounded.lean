import Reattempt.Binary64.Shortest

/-!
# Rounded decimal text

A number with a given count of significant digits, in scientific or general form. Rounding is exact,
and a half goes to the even neighbour.
-/
namespace Reattempt.Binary64

/-- The significand of `n` units with `places + 1` digits, at exponent `e`. -/
def significandAt (n places : Nat) (e : Int) : Nat :=
  let shift := (places : Int) - e
  if 0 ≤ shift then nearest (n * Nat.pow 10 shift.toNat) unitsPerOne
  else nearest n (unitsPerOne * Nat.pow 10 shift.natAbs)

/-- The greatest exponent of ten not above `n` units, for positive `n`. -/
def decimalExponent (n : Nat) : Int := (digitCount (steps n) : Int) - 1 - 1074

/-- Digits and exponent with `places` digits after the first; rounding up may need one more digit
before the point. -/
def significant (n places : Nat) : List Char × Int :=
  if n = 0 then (zeros (places + 1), 0)
  else
    let e := decimalExponent n
    let m := significandAt n places e
    if m < Nat.pow 10 (places + 1) then (Nat.toDigits 10 m, e)
    else (Nat.toDigits 10 (m / 10), e + 1)

def dropZeros (ds : List Char) : List Char := (ds.reverse.dropWhile (· == '0')).reverse

def exponentText (mark : Char) (e : Int) : List Char :=
  [mark, if e < 0 then '-' else '+'] ++ padLeft 2 (Nat.toDigits 10 e.natAbs)

/-- The point and what follows it; `full` keeps a point that nothing follows. -/
def fraction (full : Bool) (ds : List Char) : List Char :=
  if ds.isEmpty && !full then [] else '.' :: ds

/-- One digit, the point, the other digits and an exponent. -/
def exponential (full : Bool) (places n : Nat) : List Char :=
  let (ds, e) := significant n places
  ds.take 1 ++ fraction full (ds.drop 1) ++ exponentText 'e' e

/-- Positional or scientific, whichever suits `count` significant digits; trailing zeros stay only in
the full form. -/
def general (full : Bool) (count n : Nat) : List Char :=
  let trim := if full then id else dropZeros
  let count := max count 1
  let (ds, e) := significant n (count - 1)
  if -4 ≤ e ∧ e < count then
    if e < 0 then ['0', '.'] ++ zeros (e.natAbs - 1) ++ trim ds
    else ds.take (e.toNat + 1) ++ fraction full (trim (ds.drop (e.toNat + 1)))
  else ds.take 1 ++ fraction full (trim (ds.drop 1)) ++ exponentText 'e' e

end Reattempt.Binary64
