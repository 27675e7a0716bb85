import Reattempt.Engine

/-!
# Options of an engine

Each option hands the engine over to one with another collaborator. Giving none restores the
default.
-/
namespace Reattempt

variable {ι κ : Type}

namespace Setup

def withJudge (judge : Option ι) (s : Setup ι) : Setup ι := { s with judge := judge }

def withNotifier (notifier : Option ι) (s : Setup ι) : Setup ι := { s with notifier := notifier }

def withSleeper (sleeper : Option (Party ι)) (s : Setup ι) : Setup ι := { s with sleeper := sleeper }

end Setup

/-- Options of a decorated function; those not given are left alone. -/
structure Options (ι : Type) where
  judge : Option ι
  notifier : Option ι
  sleeper : Option (Party ι)
  deriving Inhabited

def Options.apply (o : Options ι) (s : Setup ι) : Setup ι :=
  { s with
    judge := o.judge <|> s.judge
    notifier := o.notifier <|> s.notifier
    sleeper := o.sleeper <|> s.sleeper }

namespace Engine

/-- A fresh engine. -/
def make (mode : Mode) (setup : Setup ι) : Engine ι κ := ⟨mode, setup, .fresh⟩

/-- The engine that takes over, if one is asked for. -/
def adopt {α : Type} (option : Option α) (change : Option α → Setup ι → Setup ι) (e : Engine ι κ) :
    Except Fault (Engine ι κ) :=
  match option with
  | none => .ok e
  | some a => do return (← e.reconfigure (change (some a))).2

/-- The engine that takes over with all given options. -/
def configure (o : Options ι) (e : Engine ι κ) : Except Fault (Engine ι κ) := do
  let e ← e.adopt o.judge Setup.withJudge
  let e ← e.adopt o.notifier Setup.withNotifier
  e.adopt o.sleeper Setup.withSleeper

/-- A fresh engine takes all options. -/
theorem configure_make (mode : Mode) (setup : Setup ι) (o : Options ι) :
    (make mode setup : Engine ι κ).configure o = .ok (make mode (o.apply setup)) := by
  obtain ⟨j, n, s⟩ := o
  cases j <;> cases n <;> cases s <;> rfl

@[simp] theorem life_make (mode : Mode) (setup : Setup ι) : (make mode setup : Engine ι κ).life = .fresh :=
  rfl

end Engine

end Reattempt
