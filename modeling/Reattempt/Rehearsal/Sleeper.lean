import Reattempt.Value.Order

/-!
# Sleepers for rehearsals

A virtual clock records delays and adds them up instead of waiting. A blocking sleeper waits, unless
the delay is no length of time.
-/
namespace Reattempt.Rehearsal

/-- A clock that is moved on by every delay. -/
structure Clock where
  start : Value
  now : Value
  delays : List Value
  deriving Inhabited

namespace Clock

def make (start : Value) : Clock := ⟨start, start, []⟩

def unjoined (kind : String) (v : Value) : Fault :=
  Fault.typeError ("can only concatenate " ++ kind ++ " (not \"" ++ v.kind ++ "\") to " ++ kind)

/-- A value with another added to it: numbers are added up, texts and collections put together. -/
def added (now delay : Value) : Except Fault Value :=
  match now, delay with
  | .num a, .num b => if a.mixes b then .ok (.num (a + b)) else .error Fault.unconvertible
  | .str s, .str t => .ok (.str (s ++ t))
  | .bytes s, .bytes t => .ok (.bytes (s ++ t))
  | .tuple s, .tuple t => .ok (.tuple (s ++ t))
  | .list s, delay => delay.members.map fun t => .list (s ++ t)
  | .bytes _, delay => .error (Fault.typeError ("can't concat " ++ delay.kind ++ " to bytes"))
  | .str _, delay => .error (unjoined "str" delay)
  | .tuple _, delay => .error (unjoined "tuple" delay)
  | now, delay => .error (Fault.typeError ("unsupported operand type(s) for +=: '" ++ now.kind ++
      "' and '" ++ delay.kind ++ "'"))

/-- Records a delay and moves on by it. A list is extended in place, and so is its start. -/
def sleep (c : Clock) (delay : Value) : Except Fault Unit × Clock :=
  let c := { c with delays := c.delays ++ [delay] }
  match c.now, added c.now delay with
  | .list _, .ok now => (.ok (), { c with start := now, now := now })
  | _, .ok now => (.ok (), { c with now := now })
  | _, .error f => (.error f, c)

def reset (c : Clock) : Clock := make c.start

@[simp] theorem delays_sleep (c : Clock) (delay : Value) :
    (c.sleep delay).2.delays = c.delays ++ [delay] := by
  simp only [sleep]; split <;> rfl

@[simp] theorem reset_make (start : Value) : (make start).reset = make start := rfl

end Clock

/-- The longest wait, in nanoseconds. -/
def longestWait : Nat := Nat.pow 2 63

/-- Whether a delay is a length of time that a thread can wait. -/
def checkWait (delay : Value) : Except Fault Unit := do
  match delay with
  | .num (.real .nan) => throw (Fault.valueError "Invalid value NaN (not a number)")
  | .num n =>
    let tooLong := match n.extent? with
      | some (.exact units) => decide (longestWait * Binary64.unitsPerOne ≤ units.natAbs * 1000000000)
      | _ => true
    if tooLong then throw (Fault.overflowError "timestamp too large to convert to C _PyTime_t")
    else if n < 0 then throw (Fault.valueError "sleep length must be non-negative")
  | v => throw (Fault.notWhole v.kind)

/-- How a sleeper of a rehearsal is called. -/
inductive SleeperStyle where
  | sync
  | coro
  | awaitable
  deriving DecidableEq, Repr, Inhabited

/-- A sleeper that is told what to do: it fails from completion number `after + 1` on. -/
structure Actor where
  style : SleeperStyle
  suspensions : Nat
  value : Value
  failure : Option Fault
  after : Nat
  completions : Nat
  deriving Inhabited

inductive Sleeper where
  | timer
  | thread
  | clock (c : Clock)
  | actor (a : Actor)
  deriving Inhabited

def SleeperStyle.name : SleeperStyle → String
  | .sync => "sync"
  | .coro => "coro"
  | .awaitable => "awaitable"

namespace Sleeper

def display : Sleeper → String
  | .timer => "AsyncioSleeper()"
  | .thread => "ThreadSleeper()"
  | .clock _ => "<aretry.testing.sleeper.VirtualSleeper object at 0x>"
  | .actor a => "<sleeper " ++ a.style.name ++ ">"

def className : Sleeper → String
  | .timer => "AsyncioSleeper"
  | .thread => "ThreadSleeper"
  | .clock _ => "VirtualSleeper"
  | .actor _ => "DriverSleeper"

end Sleeper

end Reattempt.Rehearsal
