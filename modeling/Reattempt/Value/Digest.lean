import Reattempt.Value.Equality

/-!
# Digests

What the hash of a value is computed from. Two values have one digest exactly if their hashes are
bound to be equal: equal numbers of any kind, texts and bytes of the same content, and collections
with the same digests in the same order.
-/
namespace Reattempt

inductive Digest where
  | number (n : Int)
  | content (units : List UInt8)
  | tuple (ds : List Digest)
  | place (id : Identity)
  | classOf (c : FaultClass)
  | nothing
  | waiting
  deriving Repr, Inhabited

namespace Digest

/-- Numbers are reduced by the Mersenne prime of exponent 61. -/
def modulus : Nat := Nat.pow 2 61 - 1

/-- Minus one is kept free and shares the hash of minus two. -/
def reduced (negative : Bool) (n : Nat) : Int :=
  let m : Int := (n % modulus : Nat)
  let h := if negative then -m else m
  if h = -1 then -2 else h

/-- A unit of `2 ^ -1074` counts as `2 ^ 24`, since `1098` is a multiple of `61`. -/
def ofExtent : Extent → Int
  | .below => -314159
  | .exact u => reduced (u < 0) (u.natAbs * Nat.pow 2 24)
  | .above => 314159

/-- A not-a-number is hashed by its place. -/
def ofNumber (n : Number) : Digest :=
  match n.extent? with
  | some x => .number (ofExtent x)
  | none => .waiting

/-- One, two or four bytes for every character, as the widest of them needs. -/
def textUnits (s : String) : List UInt8 :=
  let ns := s.toList.map Char.toNat
  let unit (width n : Nat) : List UInt8 := (List.range width).map fun i => UInt8.ofNat (n >>> (8 * i))
  let width := if ns.all (· < 0x100) then 1 else if ns.all (· < 0x10000) then 2 else 4
  ns.flatMap (unit width)

def ofContent (bs : List UInt8) : Digest := if bs.isEmpty then .number 0 else .content bs

end Digest

namespace Value

def unhashable (v : Value) : Fault :=
  Fault.typeError ("unhashable type: '" ++ v.kind ++ "'")

mutual

/-- The digest of a value; lists and dictionaries have none. -/
def digest : Value → Except Fault Digest
  | .none => .ok .nothing
  | .num n => .ok (Digest.ofNumber n)
  | .str s => .ok (Digest.ofContent (Digest.textUnits s))
  | .bytes bs => .ok (Digest.ofContent bs)
  | .list vs => .error (unhashable (.list vs))
  | .dict es => .error (unhashable (.dict es))
  | .tuple vs => (digestList vs).map .tuple
  | .fault f => .ok (.place f.id)
  | .cls c => .ok (.classOf c)
  | .ok v => (digest v).map fun d => .tuple [Digest.ofContent (Digest.textUnits "Ok"), d]
  | .err v => (digest v).map fun d => .tuple [Digest.ofContent (Digest.textUnits "Err"), d]
  | .awaitable _ => .ok .waiting

def digestList : List Value → Except Fault (List Digest)
  | [] => .ok []
  | v :: vs => do
    let d ← digest v
    let ds ← digestList vs
    return d :: ds

end

end Value

namespace Digest

mutual

/-- Whether two hashes are equal. A hash by place is equal to none but its own. -/
def agrees : Digest → Digest → Bool
  | .number a, .number b => a = b
  | .content a, .content b => a = b
  | .tuple a, .tuple b => agreesList a b
  | .place a, .place b => a = b
  | .classOf a, .classOf b => a = b
  | .nothing, .nothing => true
  | _, _ => false

def agreesList : List Digest → List Digest → Bool
  | [], [] => true
  | a :: as, b :: bs => agrees a b && agreesList as bs
  | _, _ => false

end

end Digest

namespace Value

def sameHash (a b : Value) : Bool :=
  match a.digest, b.digest with
  | .ok d, .ok e => d.agrees e
  | _, _ => false

/-- Puts a value into a set. It is kept unless one with its hash is equal to it. -/
def keep (seen : List Value) (v : Value) : List Value :=
  if seen.any fun w => w.sameHash v && w.eq v then seen else v :: seen

/-- The members of a set that values are put into one after another. -/
def setOf (vs : List Value) : List Value := vs.foldl keep []

/-- The number of different values in a list. -/
def countDistinct (vs : List Value) : Nat := (setOf vs).length

end Value

end Reattempt
