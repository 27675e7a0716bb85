import Reattempt.Binary64.Rounded
import Reattempt.Value.Equality
import Reattempt.Value.Text

/-!
# Message templates

A template is a text with directives, each of which is replaced by an argument in the form that it
asks for; arguments before it may give its width and precision. A template that does not fit its
arguments has no text.
-/
namespace Reattempt.Template

/-- A number in a directive: written out, or taken from an argument. -/
inductive Size where
  | written (n : Nat)
  | taken
  deriving DecidableEq, Repr, Inhabited

/-- What a directive asks for. Its width and precision are settled if they are written out. -/
structure Directive where
  key : Option String
  left : Bool
  plus : Bool
  blank : Bool
  zero : Bool
  alternate : Bool
  width : Size
  precision : Option Size
  kind : Char
  deriving Repr, Inhabited

/-- A directive with the width and the precision that it has in the end. -/
structure Form where
  left : Bool
  plus : Bool
  blank : Bool
  zero : Bool
  alternate : Bool
  width : Nat
  precision : Option Nat
  kind : Char
  deriving Repr, Inhabited

inductive Piece where
  | char (c : Char)
  | directive (d : Directive)
  deriving Repr, Inhabited

def isDigit (c : Char) : Bool := '0' ≤ c && c ≤ '9'

/-- Widths are below this bound. -/
def widthLimit : Nat := Nat.pow 2 63

/-- Precisions are below this bound. -/
def precisionLimit : Nat := Nat.pow 2 31

/-- Reads a size below a limit; without digits it is zero. -/
def readSize (limit : Nat) : List Char → Option (Size × List Char)
  | '*' :: cs => some (.taken, cs)
  | cs =>
    let n := (cs.takeWhile isDigit).foldl (fun n c => 10 * n + (c.toNat - '0'.toNat)) 0
    if n < limit then some (.written n, cs.dropWhile isDigit) else none

/-- A key in brackets, which may hold brackets itself. -/
def readKey : Nat → List Char → Option (List Char × List Char)
  | _, [] => none
  | 0, ')' :: cs => some ([], cs)
  | depth, c :: cs =>
    let depth := if c = '(' then depth + 1 else if c = ')' then depth - 1 else depth
    (readKey depth cs).map fun (key, rest) => (c :: key, rest)

def readFlags (d : Directive) : List Char → Directive × List Char
  | '-' :: cs => readFlags { d with left := true } cs
  | '+' :: cs => readFlags { d with plus := true } cs
  | ' ' :: cs => readFlags { d with blank := true } cs
  | '0' :: cs => readFlags { d with zero := true } cs
  | '#' :: cs => readFlags { d with alternate := true } cs
  | cs => (d, cs)

def plain : Directive := ⟨none, false, false, false, false, false, .written 0, none, '%'⟩

/-- Reads a directive after its percent sign. -/
def readDirective (cs : List Char) : Option (Directive × List Char) := do
  let (d, cs) ← match cs with
    | '(' :: cs => (readKey 0 cs).map fun (key, cs) => ({ plain with key := some (String.ofList key) }, cs)
    | cs => some (plain, cs)
  let (d, cs) := readFlags d cs
  let (width, cs) ← readSize widthLimit cs
  let (precision, cs) ← match cs with
    | '.' :: cs => (readSize precisionLimit cs).map fun (p, cs) => (some p, cs)
    | cs => some (none, cs)
  let cs := match cs with
    | 'h' :: cs => cs
    | 'l' :: cs => cs
    | 'L' :: cs => cs
    | cs => cs
  match cs with
  | kind :: cs => some ({ d with width := width, precision := precision, kind := kind }, cs)
  | [] => none

/-- The pieces of a template; each takes at least one character. A doubled sign stands for itself. -/
def readPieces : Nat → List Char → Option (List Piece)
  | _, [] => some []
  | 0, _ => none
  | fuel + 1, '%' :: '%' :: cs => do return .char '%' :: (← readPieces fuel cs)
  | fuel + 1, '%' :: cs => do
    let (d, rest) ← readDirective cs
    return .directive d :: (← readPieces fuel rest)
  | fuel + 1, c :: cs => do return .char c :: (← readPieces fuel cs)

def pieces? (s : String) : Option (List Piece) := readPieces s.length s.toList

/-! ## Filling in -/

def pad (d : Form) (cs : List Char) : List Char :=
  let blanks := List.replicate (d.width - cs.length) ' '
  if d.left then cs ++ blanks else blanks ++ cs

def signText (d : Form) (negative : Bool) : List Char :=
  if negative then ['-'] else if d.plus then ['+'] else if d.blank then [' '] else []

/-- A sign, a mark and digits; zeros fill the width between the mark and the digits. -/
def padNumber (d : Form) (front digits : List Char) : List Char :=
  if d.zero && !d.left then
    front ++ List.replicate (d.width - front.length - digits.length) '0' ++ digits
  else pad d (front ++ digits)

def wholeText (d : Form) (base : Nat) (mark : List Char) (upper : Bool) (i : Int) : List Char :=
  let ds := Nat.toDigits base i.natAbs
  let ds := List.replicate (d.precision.getD 1 - ds.length) '0' ++ ds
  let ds := if upper then ds.map Char.toUpper else ds
  padNumber d (signText d (i < 0) ++ if d.alternate then mark else []) ds

def realText (d : Form) (x : Binary64) : List Char :=
  let upper := d.kind = 'E' || d.kind = 'F' || d.kind = 'G'
  let cased (cs : List Char) : List Char := if upper then cs.map Char.toUpper else cs
  let precision := d.precision.getD 6
  match x with
  | .nan => padNumber d (signText d false) (cased ['n', 'a', 'n'])
  | .infinite negative => padNumber d (signText d negative) (cased ['i', 'n', 'f'])
  | .finite negative n =>
    let body :=
      if d.kind = 'e' || d.kind = 'E' then Binary64.exponential d.alternate precision n
      else if d.kind = 'g' || d.kind = 'G' then Binary64.general d.alternate precision n
      else ((Binary64.finite false n).fixed precision).toList ++
        if d.alternate && precision = 0 then ['.'] else []
    padNumber d (signText d negative) (cased body)

/-- A number without its fraction. -/
def truncated : Number → Option Int
  | .real (.finite negative n) => some (Binary64.signed negative (n / Binary64.unitsPerOne))
  | .real _ => none
  | n => n.int?

def cut (d : Form) (s : String) : List Char := pad d (s.toList.take (d.precision.getD s.length))

/-- A value in this form. -/
def Form.fill? (d : Form) (v : Value) : Option (List Char) :=
  match d.kind, v with
  | 's', v => v.text.toOption.map (cut d)
  | 'r', v => v.shown.toOption.map (cut d)
  | 'a', v => v.shown.toOption.map fun s => cut d (Text.asciiOnly s)
  | 'c', .str s => if s.length = 1 then some (pad d s.toList) else none
  | 'c', .num n => n.int?.bind fun i =>
      if 0 ≤ i ∧ i.toNat.isValidChar then some (pad d [Char.ofNat i.toNat]) else none
  | kind, .num n =>
    if kind = 'd' ∨ kind = 'i' ∨ kind = 'u' then
      ((truncated n).filter fun i => !(Number.whole i).isOverlong).map (wholeText d 10 [] false)
    else if kind = 'x' then n.int?.map (wholeText d 16 ['0', 'x'] false)
    else if kind = 'X' then n.int?.map (wholeText d 16 ['0', 'X'] true)
    else if kind = 'o' then n.int?.map (wholeText d 8 ['0', 'o'] false)
    else if kind ∈ ['e', 'E', 'f', 'F', 'g', 'G'] then
      if n.convertible then some (realText d n.toBinary) else none
    else none
  | _, _ => none

/-- A whole number between two bounds, from the first argument. -/
def takeSize (limit : Nat) : List Value → Option (Int × List Value)
  | .num n :: args => do
    let i ← n.int?
    if i.natAbs < limit then some (i, args) else none
  | _ => none

/-- The width, which is to the left if it is below zero. -/
def Size.width : Size → List Value → Option (Bool × Nat × List Value)
  | .written n, args => some (false, n, args)
  | .taken, args => (takeSize widthLimit args).map fun (i, args) => (i < 0, i.natAbs, args)

/-- The precision, which is none below zero. -/
def Size.precision : Size → List Value → Option (Nat × List Value)
  | .written n, args => some (n, args)
  | .taken, args => (takeSize precisionLimit args).map fun (i, args) => (i.toNat, args)

/-- The form of a directive, and the arguments that are left. -/
def Directive.form? (d : Directive) (args : List Value) : Option (Form × List Value) := do
  let (left, width, args) ← d.width.width args
  let (precision, args) ← match d.precision with
    | none => some (none, args)
    | some p => (p.precision args).map fun (n, args) => (some n, args)
  return (⟨d.left || left, d.plus, d.blank, d.zero, d.alternate, width, precision, d.kind⟩, args)

/-- The arguments for a directive: with a key, only the value under it. -/
def Directive.supply? (d : Directive) (dictionary : Option (List (Value × Value))) (args : List Value) :
    Option (List Value) :=
  match d.key with
  | none => some args
  | some key => do return [← Value.lookup (.str key) (← dictionary)]

/-- Fills a directive from the next argument. -/
def Directive.fill? (d : Directive) (args : List Value) : Option (List Char × List Value) := do
  match ← d.form? args with
  | (form, v :: args) => return (← form.fill? v, args)
  | _ => none

/-- Fills the pieces from the arguments in turn, or from a dictionary by their keys. -/
def fillPieces (dictionary : Option (List (Value × Value))) : List Piece → List Value → Option (List Char)
  | [], rest => if rest.isEmpty || dictionary.isSome then some [] else none
  | .char c :: ps, args => (fillPieces dictionary ps args).map (c :: ·)
  | .directive d :: ps, args => do
    let (cs, args) ← d.fill? (← d.supply? dictionary args)
    return cs ++ (← fillPieces dictionary ps args)

/-- The text of a template. Without arguments it is left as it is; one dictionary that is not empty
is looked into. -/
def fill? (template : String) (args : List Value) : Option String :=
  if args.isEmpty then some template
  else do
    let ps ← pieces? template
    let dictionary := match args with
      | [.dict (e :: es)] => some (e :: es)
      | _ => none
    return String.ofList (← fillPieces dictionary ps args)

@[simp] theorem fill?_nil (template : String) : fill? template [] = some template := rfl

end Reattempt.Template
