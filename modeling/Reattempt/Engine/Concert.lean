import Reattempt.Backoff.Builder
import Reattempt.Engine.Transcript

/-!
# Concerts

Several retries are under way at a time, and their coroutines are stepped in any order. One builder makes the
cursors of all. Whatever else a retry works with is its own: what it asks of others than its cursor is
replied to from its own surroundings, where nobody sees which place its cursor has.
-/
namespace Reattempt

open Backoff

/-- Where cursors are made, each in a place, and advanced. -/
structure Supply (ς : Type) where
  build : ς → Except Fault Nat × ς
  draw : Nat → ς → Except Fault (Option Value) × ς

namespace Supply

/-- All cursors of a builder, side by side. -/
def shared : Supply Stock where
  build := Stock.build
  draw i s := ((Backoff.draw s.cursors i).1, { s with cursors := (Backoff.draw s.cursors i).2 })

/-- One cursor of a builder, made afresh. -/
def lone (b : Builder) : Supply (Option Cursor) where
  build _ :=
    match b.fresh with
    | .ok c => (.ok 0, some c)
    | .error x => (.error x, none)
  draw _ s :=
    match s with
    | none => (.ok none, none)
    | some c => (c.advance.1, some c.advance.2)

end Supply

/-- A retry that takes part in a concert, as it is described before it does. -/
structure Role (κ σ : Type) where
  /-- Whether it is the call of a decorated function, whose engine is made with the first step. -/
  isCall : Bool
  /-- What its engine works with; the place of the cursor is not known yet. -/
  setup : Setup Nat
  options : Options Nat
  world : World Nat κ σ
  own : σ

/-- A coroutine that takes part in a concert: what its last step came to, and how far it is, with its engine
once that is made, all that it has asked, and what has become of its surroundings. -/
structure Player (κ σ : Type) where
  yield : Yield
  progress : Progress
  engine : Option (Engine Nat κ)
  transcript : List (Exchange κ)
  own : σ

inductive Beat where
  /-- The engine is created and its coroutine obtained, or the decorated function is called. -/
  | enter
  /-- A step of the coroutine, with the number of replies it may take. -/
  | step (fuel : Nat) (n : Nudge)
  deriving Inhabited

/-- The same engine with its cursor in another place. -/
def Engine.placed {κ : Type} (i : Nat) (e : Engine Nat κ) : Engine Nat κ :=
  { e with setup := { e.setup with backoff := i } }

/-- The same player; the place of its cursor is not shown. -/
def Player.unplaced {κ σ : Type} (p : Player κ σ) : Player κ σ :=
  { p with engine := p.engine.map (Engine.placed 0) }

namespace Role

variable {κ σ ς : Type}

/-- Its own surroundings, and its cursor. -/
def surroundings (r : Role κ σ) (supply : Supply ς) : World Nat κ (σ × ς) := fun e a s =>
  match a with
  | .advance => (.drawn (supply.draw e.setup.backoff s.2).1, s.1, (supply.draw e.setup.backoff s.2).2)
  | a => ((r.world (e.placed 0) a s.1).1, (r.world (e.placed 0) a s.1).2, s.2)

/-- A fresh engine with a cursor of its own, and with all options. -/
def make (r : Role κ σ) (supply : Supply ς) (z : ς) : Except Fault (Engine Nat κ) × ς :=
  match supply.build z with
  | (.ok i, z) => ((Engine.make .cooperative { r.setup with backoff := i }).configure r.options, z)
  | (.error x, z) => (.error x, z)

/-- A step with an engine. -/
def go (r : Role κ σ) (supply : Supply ς) (fuel : Nat) (e : Engine Nat κ) (p : Progress) (n : Nudge)
    (s : List (Exchange κ) × σ × ς) : Yield × Progress × Engine Nat κ × List (Exchange κ) × σ × ς :=
  let t := Engine.nudge (Engine.recording (r.surroundings supply)) fuel p n e s
  (t.yield, t.progress, t.engine, t.world)

/-- A step of a player, which makes its engine first if it has none. -/
def step (r : Role κ σ) (supply : Supply ς) (fuel : Nat) (n : Nudge) (p : Player κ σ) (z : ς) :
    Player κ σ × ς :=
  let make := fun s : List (Exchange κ) × σ × ς =>
    ((r.make supply s.2.2).1, s.1, s.2.1, (r.make supply s.2.2).2)
  let (y, q, e, T, own, z) :=
    Engine.belated make (r.go supply fuel) p.engine p.progress n (p.transcript, p.own, z)
  (⟨y, q, e, T, own⟩, z)

/-- It enters once, and is stepped after that. If its engine cannot be made it has come to its end. -/
def beat (r : Role κ σ) (supply : Supply ς) : Beat → Option (Player κ σ) × ς → Option (Player κ σ) × ς
  | .enter, (none, z) =>
    if r.isCall then (some ⟨.suspended, .unstarted, none, [], r.own⟩, z)
    else
      match r.make supply z with
      | (.ok e, z) => (some ⟨.suspended, .unstarted, some e, [], r.own⟩, z)
      | (.error x, z) => (some ⟨.ended (.raised x), .finished, none, [], r.own⟩, z)
  | .enter, (some p, z) => (some p, z)
  | .step _ _, (none, z) => (none, z)
  | .step fuel n, (some p, z) => (some (r.step supply fuel n p z).1, (r.step supply fuel n p z).2)

/-- It takes its beats and nobody else is there. -/
def alone (r : Role κ σ) (b : Builder) (qs : List Beat) : Option (Player κ σ) × Option Cursor :=
  qs.foldl (fun s q => r.beat (.lone b) q s) (none, none)

/-- What its engine works with when its cursor is the only one. -/
def outfit (r : Role κ σ) : Setup Nat := r.options.apply { r.setup with backoff := 0 }

/-- A coroutine of a fresh engine that is told the same, with a cursor that nobody has advanced. -/
def solo (r : Role κ σ) (b : Builder) (c : Cursor) (qs : List (Nat × Nudge)) :
    Turn Nat κ (List (Exchange κ) × σ × Option Cursor) :=
  Engine.told (Engine.recording (r.surroundings (.lone b))) .cooperative r.outfit ([], r.own, some c) qs

end Role

/-- A player stands where a coroutine of an engine stands; an engine that is not made yet is as good as
fresh. -/
structure Player.StandsAt {κ σ : Type} (p : Player κ σ) (u : Setup Nat)
    (t : Turn Nat κ (List (Exchange κ) × σ × Option Cursor)) : Prop where
  yield : p.yield = t.yield
  progress : p.progress = t.progress
  engine : p.engine.getD (Engine.make .cooperative u) = t.engine
  transcript : p.transcript = t.world.1
  own : p.own = t.world.2.1

structure Concert (κ σ : Type) where
  stock : Stock
  players : Nat → Option (Player κ σ)

namespace Concert

variable {κ σ : Type}

def beat (roles : Nat → Role κ σ) (g : Concert κ σ) (m : Nat × Beat) : Concert κ σ :=
  let (p, stock) := (roles m.1).beat .shared m.2 (g.players m.1, g.stock)
  ⟨stock, fun j => if j = m.1 then p else g.players j⟩

/-- A concert with a new builder, after so many beats. -/
def play (roles : Nat → Role κ σ) (b : Builder) (ms : List (Nat × Beat)) : Concert κ σ :=
  ms.foldl (beat roles) ⟨⟨b, []⟩, fun _ => none⟩

/-- The beats of one player. -/
def beatsOf (j : Nat) (ms : List (Nat × Beat)) : List Beat :=
  ms.filterMap fun m => if m.1 = j then some m.2 else none

end Concert

end Reattempt
