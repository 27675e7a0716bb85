import Reattempt.Backoff.Growth
import Reattempt.Value

/-!
# Cursors over delays

A cursor hands out delays one at a time until it is exhausted. Besides the cursors of policies there
are two that hand out what they are given, for rehearsals.
-/
namespace Reattempt.Backoff

/-- A list of delays; every advance is counted, also those past the end. -/
structure Scripted where
  rest : List Value
  advances : Nat
  deriving Inhabited

/-- What an advance over given items meets. -/
inductive Item where
  | delay (v : Value)
  | raising (f : Fault)
  deriving Inhabited

inductive Cursor where
  /-- One delay, so many times or for ever. -/
  | repeating (delay : Number) (left : Option Nat)
  | growing (g : Growing Number)
  | spent
  | scripted (s : Scripted)
  | items (rest : List Item)
  deriving Inhabited

namespace Scripted

def isExhausted (s : Scripted) : Bool := s.rest.isEmpty

def advance (s : Scripted) : Option Value × Scripted :=
  (s.rest.head?, ⟨s.rest.tail, s.advances + 1⟩)

@[simp] theorem advances_advance (s : Scripted) : s.advance.2.advances = s.advances + 1 := rfl

end Scripted

namespace Cursor

/-- A raised end of iteration is the end. -/
def advanceItems : List Item → Except Fault (Option Value) × List Item
  | [] => (.ok none, [])
  | .delay v :: rest => (.ok (some v), rest)
  | .raising f :: rest => (if f.isA .stopIteration then .ok none else .error f, rest)

/-- The next delay, or none if no more delays remain. -/
def advance : Cursor → Except Fault (Option Value) × Cursor
  | .repeating d none => (.ok (some (.num d)), .repeating d none)
  | .repeating d (some 0) => (.ok none, .repeating d (some 0))
  | .repeating d (some (n + 1)) => (.ok (some (.num d)), .repeating d (some n))
  | .growing g =>
    match g.advance with
    | (step, after) =>
      (match step with
        | .delay d => .ok (some (.num d))
        | .exhausted => .ok none
        | .lost => .error Fault.unconvertible,
       match after with
        | some g => .growing g
        | none => .spent)
  | .spent => (.ok none, .spent)
  | .scripted s => (.ok s.advance.1, .scripted s.advance.2)
  | .items rest =>
    let (a, rest) := advanceItems rest
    (a, .items rest)

@[simp] theorem advance_spent : Cursor.spent.advance = (.ok none, .spent) := rfl

/-- A cursor that has been advanced so many times. -/
def after (c : Cursor) : Nat → Cursor
  | 0 => c
  | n + 1 => (c.after n).advance.2

/-- Up to `n` delays; the last entry is `none` if they end before. -/
def take (c : Cursor) : Nat → Except Fault (List (Option Value))
  | 0 => .ok []
  | n + 1 =>
    match c.advance with
    | (.error f, _) => .error f
    | (.ok none, _) => .ok [none]
    | (.ok (some v), c) => do return some v :: (← c.take n)

end Cursor

end Reattempt.Backoff
