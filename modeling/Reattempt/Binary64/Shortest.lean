import Reattempt.Binary64

/-!
# Decimal text of a binary number

The shortest form has the fewest digits that still read back as the number, and among those the
digits nearest to it. A magnitude of `n` units is `n * 5 ^ 1074` steps of `10 ^ -1074`, so both the
digits and the interval of reals that round to the number are found in whole numbers.
-/
namespace Reattempt.Binary64

/-- Significant digits, most significant first, without trailing zeros: `0.digits * 10 ^ point`. -/
structure Digits where
  digits : List Char
  point : Int
  deriving DecidableEq, Repr

/-- The reals that round to a number, doubled twice so that every bound is whole. -/
structure Interval where
  low : Nat
  high : Nat
  closed : Bool
  deriving DecidableEq, Repr

def Interval.contains (i : Interval) (x : Nat) : Bool :=
  if i.closed then decide (i.low ≤ x ∧ x ≤ i.high) else decide (i.low < x ∧ x < i.high)

/-- Steps of `10 ^ -1074` in `n` units. -/
def steps (n : Nat) : Nat := n * Nat.pow 5 1074

/-- Below a power of two the neighbour is half as far as above it. -/
def interval (n : Nat) : Interval :=
  let s := spacing n
  let below := if n = Nat.pow 2 n.log2 && s ≠ 1 then s else 2 * s
  ⟨steps (4 * n - below), steps (4 * n + 2 * s), n / s % 2 = 0⟩

/-- Counts digits in blocks of 64, at most so many blocks, and the rest one by one. -/
def countDigits : Nat → Nat → Nat
  | 0, n => (Nat.toDigits 10 n).length
  | fuel + 1, n =>
    if n < Nat.pow 10 64 then (Nat.toDigits 10 n).length
    else 64 + countDigits fuel (n / Nat.pow 10 64)

def digitCount (n : Nat) : Nat := countDigits 32 n

/-- The better neighbour of `x` on the grid of step `g`, if one of the two is in the interval. -/
def onGrid? (i : Interval) (x g : Nat) : Option Nat :=
  let c := x / g
  let down := i.contains (4 * (c * g))
  let up := i.contains (4 * ((c + 1) * g))
  match down, up with
  | false, false => none
  | true, false => some c
  | false, true => some (c + 1)
  | true, true => some (nearest x g)

/-- Tries grids of `count`, `count + 1`, … digits, and finds a multiple of a power of ten. -/
def search (i : Interval) (x total : Nat) : Nat → Nat → Nat × Nat
  | 0, _ => (x, 0)
  | fuel + 1, count =>
    match onGrid? i x (Nat.pow 10 (total - count)) with
    | some c => (c, total - count)
    | none => search i x total fuel (count + 1)

def trimZeros (ds : List Char) : List Char := (ds.reverse.dropWhile (· == '0')).reverse

/-- The shortest digits of a positive magnitude. -/
def shortest (n : Nat) : Digits :=
  let x := steps n
  let total := digitCount x
  let (c, power) := search (interval n) x total 17 1
  let ds := Nat.toDigits 10 c
  ⟨trimZeros ds, (ds.length + power : Nat) - 1074⟩

/-- How a decimal layout is chosen. -/
structure Layout where
  /-- The least and the greatest exponent of ten that is written positionally. -/
  leastPositional : Int
  greatestPositional : Int
  /-- Digits of a written exponent, at least. -/
  exponentDigits : Nat

/-- Positional from `0.0001` up to sixteen whole digits, else with an exponent of two digits. -/
def layout : Layout := ⟨-4, 15, 2⟩

def zeros (n : Nat) : List Char := List.replicate n '0'

def padLeft (width : Nat) (ds : List Char) : List Char := zeros (width - ds.length) ++ ds

def positional (d : Digits) : List Char :=
  if d.point ≤ 0 then ['0', '.'] ++ zeros d.point.natAbs ++ d.digits
  else
    let p := d.point.natAbs
    if d.digits.length ≤ p then d.digits ++ zeros (p - d.digits.length) ++ ['.', '0']
    else d.digits.take p ++ ['.'] ++ d.digits.drop p

def scientific (l : Layout) (d : Digits) : List Char :=
  let e := d.point - 1
  let head := d.digits.take 1
  let tail := d.digits.drop 1
  head ++ (if tail.isEmpty then [] else '.' :: tail) ++ ['e', if e < 0 then '-' else '+'] ++
    padLeft l.exponentDigits (Nat.toDigits 10 e.natAbs)

def Layout.write (l : Layout) (d : Digits) : List Char :=
  if l.leastPositional ≤ d.point - 1 ∧ d.point - 1 ≤ l.greatestPositional then positional d
  else scientific l d

def signed? (negative : Bool) (cs : List Char) : String :=
  String.ofList (if negative then '-' :: cs else cs)

/-- The shortest text. -/
def text : Binary64 → String
  | .nan => "nan"
  | .infinite negative => signed? negative ['i', 'n', 'f']
  | .finite negative n =>
    signed? negative (if n = 0 then ['0', '.', '0'] else layout.write (shortest n))

/-- Exactly `places` digits after the point; a half goes to the even neighbour. -/
def fixed (places : Nat) : Binary64 → String
  | .nan => "nan"
  | .infinite negative => signed? negative ['i', 'n', 'f']
  | .finite negative n =>
    let m := nearest (n * Nat.pow 10 places) unitsPerOne
    let fraction := padLeft places (Nat.toDigits 10 (m % Nat.pow 10 places))
    signed? negative (Nat.toDigits 10 (m / Nat.pow 10 places) ++
      if places = 0 then [] else '.' :: fraction)

end Reattempt.Binary64
