import Reattempt.Text.LetterTable

/-!
# Letter case of a text

Case mapping of whole texts: a letter may become several, and a capital sigma that ends a word
becomes the final sigma.
-/
namespace Reattempt.Text

def CaseRun.contains (r : CaseRun) (n : Nat) : Bool :=
  r.first ≤ n && n ≤ r.last && (n - r.first) % r.step == 0

/-- The other case of a letter, if one of the runs has it. -/
def otherCase (runs : List CaseRun) (c : Char) : Char :=
  match runs.find? (·.contains c.toNat) with
  | some r => Char.ofNat ((c.toNat : Int) + r.shift).toNat
  | none => c

def isCased (c : Char) : Bool := casedLetters.contains c.toNat

def isCaseIgnorable (c : Char) : Bool := caseIgnorable.contains c.toNat

/-- Whether the first character that case does not ignore is a letter with case. -/
def startsCased (cs : List Char) : Bool := (cs.dropWhile isCaseIgnorable).head?.any isCased

/-- The lower case of `c` between the reversed text `before` and the text `rest`. -/
def lowerBetween (before : List Char) (c : Char) (rest : List Char) : List Char :=
  if c = 'Σ' then [if startsCased before && !startsCased rest then 'ς' else 'σ']
  else if c = 'İ' then ['i', '\u0307']
  else [otherCase lowerRuns c]

def lowerAfter (before : List Char) : List Char → List Char
  | [] => []
  | c :: rest => lowerBetween before c rest ++ lowerAfter (c :: before) rest

def lower (cs : List Char) : List Char := lowerAfter [] cs

def upperChar (c : Char) : List Char :=
  match upperSeveral.lookup c.toNat with
  | some ns => ns.map Char.ofNat
  | none => [otherCase upperRuns c]

def upper (cs : List Char) : List Char := cs.flatMap upperChar

@[simp] theorem lower_nil : lower [] = [] := rfl

@[simp] theorem upper_nil : upper [] = [] := rfl

@[simp] theorem upper_append (a b : List Char) : upper (a ++ b) = upper a ++ upper b := by
  simp [upper]

end Reattempt.Text
