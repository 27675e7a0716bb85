import Reattempt.Value

/-!
# Equality of values

Numbers are equal across kinds, collections if their members are, dictionaries whatever their
order; a fault is equal only to itself. Not-a-number makes everything that holds it unequal.
-/
namespace Reattempt.Value

mutual

/-- The first value is on the left throughout. A result compares the other way round, the payload of the other with
its own: `Result.equals` has that order at the top, and results in results have this one. It makes no difference at
any depth between plain values, of which equality is symmetric. -/
def eq : Value → Value → Bool
  | .none, .none => true
  | .num a, .num b => a.eq b
  | .str a, .str b => a = b
  | .bytes a, .bytes b => a = b
  | .list a, .list b => eqList a b
  | .tuple a, .tuple b => eqList a b
  | .dict a, .dict b => a.length = b.length && eqEntries a b
  | .fault a, .fault b => a.id = b.id
  | .cls a, .cls b => a = b
  | .ok a, .ok b => eq a b
  | .err a, .err b => eq a b
  | _, _ => false

def eqList : List Value → List Value → Bool
  | [], [] => true
  | a :: as, b :: bs => eq a b && eqList as bs
  | _, _ => false

/-- Every entry has an equal one. -/
def eqEntries : List (Value × Value) → List (Value × Value) → Bool
  | [], _ => true
  | (k, v) :: as, bs => (bs.any fun b => eq k b.1 && eq v b.2) && eqEntries as bs

end

/-- Puts a value under a key. A key that is there already keeps its place and its spelling. -/
def put (k v : Value) : List (Value × Value) → List (Value × Value)
  | [] => [(k, v)]
  | e :: es => if e.1.eq k then (e.1, v) :: es else e :: put k v es

/-- The value under a key. -/
def lookup (k : Value) (entries : List (Value × Value)) : Option Value :=
  (entries.find? (·.1.eq k)).map (·.2)

def dictOf (entries : List (Value × Value)) : Value :=
  .dict (entries.foldl (fun es e => put e.1 e.2 es) [])

end Reattempt.Value
