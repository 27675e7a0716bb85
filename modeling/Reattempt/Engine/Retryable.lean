import Reattempt.Backoff.Builder
import Reattempt.Engine.Family
import Reattempt.Engine.Transcript

/-!
# Decorated functions

Every call of a decorated function drives an engine of its own, which takes the options of the decoration. A
plain function makes the engine when it is called, and drives it in one go. The call of a coroutine function is
a coroutine, which makes the engine with its first step. Coroutines of several calls are stepped in any order.
-/
namespace Reattempt

variable {ι κ σ : Type}

/-- The engine that takes over after one change and another. -/
def Engine.changed (e : Engine ι κ) (cs : List (Setup.Change ι)) : Except Fault (Engine ι κ) :=
  cs.foldlM (fun e c => (e.reconfigure c.apply).map (·.2)) e

/-- The changes that options stand for. -/
def Options.changes (o : Options ι) : List (Setup.Change ι) :=
  (o.judge.map fun j => Setup.Change.judge (some j)).toList ++
    (o.notifier.map fun n => Setup.Change.notifier (some n)).toList ++
      (o.sleeper.map fun s => Setup.Change.sleeper (some s)).toList

/-- A function with a decoration. -/
structure Retryable (ι : Type) where
  isCoroutine : Bool
  operation : Party ι
  options : Options ι
  deriving Inhabited

namespace Retryable

/-- What a call of a decorated function has come to. -/
structure Call (ι κ σ : Type) where
  arguments : ι
  /-- What it has been told, with the number of replies it might take and the surroundings at that time. A plain
  function is told to go on once. -/
  past : List (Nat × Nudge × σ)
  yield : Yield
  progress : Progress
  engine : Option (Engine ι κ)
  transcript : List (Exchange κ)
  /-- The surroundings as it left them. -/
  left : σ

structure Scene (ι κ σ : Type) where
  world : σ
  calls : List (Call ι κ σ)

inductive Move (ι : Type) where
  /-- The function is called. A plain one may take so many replies. -/
  | call (arguments : ι) (fuel : Nat)
  /-- The coroutine of a call takes a step. -/
  | step (call fuel : Nat) (n : Nudge)

/-- What a call has been called with, and what it has been told. -/
def Call.told (c : Call ι κ σ) : ι × List (Nat × Nudge) := (c.arguments, c.past.map fun q => (q.1, q.2.1))

/-- Whether a coroutine is started by what it is told first, and not ended. -/
def begins : List (Nat × Nudge) → Bool
  | (_, .send) :: _ => true
  | _ => false

/-- Whether the function has been called for good. -/
def Call.begun (c : Call ι κ σ) : Bool := begins c.told.2

variable (g : Retryable ι)

def mode : Mode := if g.isCoroutine then .cooperative else .blocking

/-- What the engine of a call works with before it takes the options. -/
def setup (arguments cursor : ι) : Setup ι := ⟨g.operation, arguments, cursor, none, none, none⟩

/-- What the calls are told by a move. A call of a plain function is told to go on at once. -/
def tell (calls : List (ι × List (Nat × Nudge))) : Move ι → List (ι × List (Nat × Nudge))
  | .call a fuel => calls ++ [(a, if g.isCoroutine then [] else [(fuel, .send)])]
  | .step k fuel n =>
    if g.isCoroutine then calls.modify k fun c => (c.1, c.2 ++ [(fuel, n)])
    else calls

section Calls

variable (build : σ → Except Fault ι × σ)

/-- The engine of a call, with a new cursor and all options. -/
def make (arguments : ι) (s : σ) : Except Fault (Engine ι κ) × σ :=
  match build s with
  | (.ok cursor, s) => ((Engine.make g.mode (g.setup arguments cursor)).configure g.options, s)
  | (.error x, s) => (.error x, s)

/-- A builder that counts how often it builds. -/
def counted (s : Nat × σ) : Except Fault ι × Nat × σ := ((build s.2).1, s.1 + 1, (build s.2).2)

variable (w : World ι κ σ)

/-- A step with an engine. -/
def go (fuel : Nat) (e : Engine ι κ) (p : Progress) (n : Nudge) (s : List (Exchange κ) × σ) :
    Yield × Progress × Engine ι κ × List (Exchange κ) × σ :=
  let t := Engine.nudge (Engine.recording w) fuel p n e s
  (t.yield, t.progress, t.engine, t.world)

/-- A call of a plain function. -/
def call (fuel : Nat) (arguments : ι) (s : σ) : Call ι κ σ :=
  match g.make build arguments s with
  | (.ok e, s') =>
    let t := Engine.call (Engine.recording w) fuel e ([], s')
    ⟨arguments, [(fuel, .send, s)], t.yield, t.progress, some t.engine, t.world.1, t.world.2⟩
  | (.error x, s') => ⟨arguments, [(fuel, .send, s)], .ended (.raised x), .finished, none, [], s'⟩

/-- A call of a coroutine function, whose coroutine is not started yet. -/
def promise (arguments : ι) (s : σ) : Call ι κ σ := ⟨arguments, [], .suspended, .unstarted, none, [], s⟩

/-- A step of the coroutine of a call, which makes its engine first if it has none. -/
def step (fuel : Nat) (n : Nudge) (c : Call ι κ σ) (s : σ) : Call ι κ σ :=
  let make : List (Exchange κ) × σ → Except Fault (Engine ι κ) × List (Exchange κ) × σ := fun s =>
    let (e, s') := g.make build c.arguments s.2
    (e, s.1, s')
  let (y, p, e, T, s') := Engine.belated make (go w fuel) c.engine c.progress n (c.transcript, s)
  ⟨c.arguments, c.past ++ [(fuel, n, s)], y, p, e, T, s'⟩

/-- Only the calls of a coroutine function can be stepped. -/
def move (z : Scene ι κ σ) : Move ι → Scene ι κ σ
  | .call a fuel =>
    let c := if g.isCoroutine then promise a z.world else g.call build w fuel a z.world
    ⟨c.left, z.calls ++ [c]⟩
  | .step k fuel n =>
    match g.isCoroutine, z.calls[k]? with
    | true, some c =>
      let c := g.step build w fuel n c z.world
      ⟨c.left, z.calls.set k c⟩
    | _, _ => z

def play (s : σ) (ms : List (Move ι)) : Scene ι κ σ := ms.foldl (g.move build w) ⟨s, []⟩

end Calls

end Retryable

/-- The same surroundings, which leave something besides alone. -/
def World.aside {τ : Type} (w : World ι κ σ) : World ι κ (τ × σ) := fun e a s =>
  ((w e a s.2).1, s.1, (w e a s.2).2)

/-- The same surroundings, where cursors come from a stock. -/
def World.stocked (w : World Nat κ σ) : World Nat κ (σ × Backoff.Stock) := fun e a s =>
  match a with
  | .advance =>
    (.drawn (Backoff.draw s.2.cursors e.setup.backoff).1, s.1,
      { s.2 with cursors := (Backoff.draw s.2.cursors e.setup.backoff).2 })
  | a => ((w e a s.1).1, (w e a s.1).2, s.2)

/-- A new cursor in the stock. -/
def Backoff.Stock.supply (s : σ × Backoff.Stock) : Except Fault Nat × σ × Backoff.Stock :=
  (s.2.build.1, s.1, s.2.build.2)

end Reattempt
