import Reattempt.Binary64
import Reattempt.Text.Blank
import Reattempt.Text.Digit
import Reattempt.Text.Quoted

/-!
# Reading numerals

Numerals may be surrounded by blanks, may have digits of any script, and may have single
underscores between digits.
-/
namespace Reattempt.Text

/-- Why a text is no numeral. -/
inductive NumeralError where
  | notWhole (s : String)
  | notReal (s : String)
  | tooLong (digits : Nat)
  deriving DecidableEq, Repr

/-- The longest whole numeral that is read or written. -/
def maxDigits : Nat := 4300

/-- The complaint about a whole numeral that is longer. -/
def exceeds (length : String) : String :=
  "Exceeds the limit (" ++ toString maxDigits ++ " digits) for integer string conversion" ++ length ++
    "; use sys.set_int_max_str_digits() to increase the limit"

def NumeralError.message : NumeralError → String
  | .notWhole s => "invalid literal for int() with base 10: " ++ String.ofList ((quoted s).toList.take 200)
  | .notReal s => "could not convert string to float: " ++ quoted s
  | .tooLong n => exceeds (": value has " ++ toString n ++ " digits")

/-- Digits of any script and blanks beyond ASCII in their ASCII form; any other character beyond
ASCII is kept and is part of no numeral. -/
def plainNumeral (cs : List Char) : List Char :=
  cs.map fun c =>
    if c.toNat < 0x7F then c
    else if isBlank c then ' '
    else match digitValue? c with
      | some d => Char.ofNat ('0'.toNat + d)
      | none => c

def trimNumeral (cs : List Char) : List Char :=
  ((cs.dropWhile isAsciiBlank).reverse.dropWhile isAsciiBlank).reverse

def isDigit (c : Char) : Bool := '0' ≤ c && c ≤ '9'

def decimalValue (ds : List Char) : Nat := ds.foldl (fun n d => 10 * n + (d.toNat - '0'.toNat)) 0

/-- The sign before a numeral, and what follows it. -/
def takeSign : List Char → Bool × List Char
  | '-' :: cs => (true, cs)
  | '+' :: cs => (false, cs)
  | cs => (false, cs)

/-- Underscores stand alone and between digits. -/
def groupsDigits : Option Char → List Char → Bool
  | last, [] => last ≠ some '_'
  | last, c :: cs =>
    (if c = '_' then last.any isDigit else last ≠ some '_' || isDigit c) && groupsDigits (some c) cs

def ungroup (cs : List Char) : List Char := cs.filter (· ≠ '_')

/-- Reads a whole number. The length is checked as soon as the digits are known. -/
def whole? (s : String) : Except NumeralError Int :=
  let (negative, cs) := takeSign ((plainNumeral s.toList).dropWhile isAsciiBlank)
  let body := cs.takeWhile fun c => isDigit c || c = '_'
  let rest := cs.dropWhile fun c => isDigit c || c = '_'
  let ds := ungroup body
  if ds.isEmpty || !groupsDigits none body then .error (.notWhole s)
  else if maxDigits < ds.length then .error (.tooLong ds.length)
  else if rest.all isAsciiBlank then
    .ok (if negative then -(decimalValue ds : Int) else decimalValue ds)
  else .error (.notWhole s)

/-- `m * 10 ^ e`. Exponents far out of range need no computation. -/
def scaleByTen (negative : Bool) (digits : Nat) (m : Nat) (e : Int) : Binary64 :=
  if m = 0 then .finite negative 0
  else if 400 < digits + e then .infinite negative
  else if digits + e < -400 then .finite negative 0
  else if 0 ≤ e then .ofRatio negative (m * Nat.pow 10 e.toNat) 1
  else .ofRatio negative m (Nat.pow 10 e.natAbs)

/-- The exponent of a numeral, if what follows its digits is one and nothing else. -/
def exponent? : List Char → Option Int
  | [] => some 0
  | c :: cs =>
    if c = 'e' ∨ c = 'E' then
      let (negative, ds) := takeSign cs
      if ds.isEmpty || !ds.all isDigit then none
      else some (if negative then -(decimalValue ds : Int) else decimalValue ds)
    else none

def unsigned? (negative : Bool) (cs : List Char) : Option Binary64 :=
  let word := cs.map Char.toLower
  if word = "inf".toList ∨ word = "infinity".toList then some (.infinite negative)
  else if word = "nan".toList then some .nan
  else
    let front := cs.takeWhile isDigit
    let rest := cs.dropWhile isDigit
    let (back, rest) := match rest with
      | '.' :: rest => (rest.takeWhile isDigit, rest.dropWhile isDigit)
      | _ => ([], rest)
    let ds := front ++ back
    if ds.isEmpty then none
    else do
      let e ← exponent? rest
      let m := decimalValue ds
      return scaleByTen negative (Nat.toDigits 10 m).length m (e - back.length)

/-- Reads a binary number: the nearest to what is written. -/
def real? (s : String) : Except NumeralError Binary64 :=
  let cs := trimNumeral (plainNumeral s.toList)
  let (negative, body) := takeSign (ungroup cs)
  match if groupsDigits none cs then unsigned? negative body else none with
  | some x => .ok x
  | none => .error (.notReal s)

end Reattempt.Text
