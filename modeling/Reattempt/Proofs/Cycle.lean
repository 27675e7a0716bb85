import Reattempt.Engine.Transcript

/-!
# Cycles of a drive

What one attempt leads to, as a language over exchanges. A cycle is an attempt that failed, the
judge's consent, one advance, one log line, the notice and the sleep. The last cycle of a drive may
close early, and `Closing` lists every way in which it may. Both are said without the engine's
stages; `replyAt` keeps to them at every reply.
-/
namespace Reattempt

variable {ι κ σ : Type}

/-- What an attempt means that has come to something: an error result and an ordinary fault are
failures, and anything else is what the drive ends by. -/
def Mode.read (m : Mode) : Except Fault Value → Except Outcome Failure
  | .ok (.err x) => .ok (.returned x)
  | .ok v => .error (.returned v)
  | .error x =>
    if (m.leaving x).isOrdinary then .ok (.raised (m.leaving x)) else .error (.raised (m.leaving x))

namespace Reply

def of : Except Fault Value → Reply κ
  | .ok v => .returned v
  | .error x => .raised x

/-- A judge accepts a failure by anything that counts as true. -/
def accepts : Reply κ → Bool
  | .returned v => v.isTruthy
  | .pending .. => true
  | .raised _ => false

def isRaised : Reply κ → Bool
  | .raised _ => true
  | _ => false

/-- The delay that a cursor hands out. -/
def delay? : Reply κ → Option Value
  | .returned .none => none
  | .returned d => some d
  | _ => none

/-- A cursor is at its end when it hands out no delay or raises the end of iteration. -/
def isEnd : Reply κ → Bool
  | .raised x => x.isA .stopIteration
  | r => r.delay?.isNone

end Reply

/-! ## The language -/

section Language

variable (m : Mode) (u : Setup ι) (n : Nat)

/-- The operation has been called, and resumed for as long as it was pending. -/
inductive Invoked : List (Exchange κ) → Reply κ → Prop where
  | call (r : Reply κ) : Invoked [⟨.executing, n, .invoke, r⟩] r
  | resume {T : List (Exchange κ)} {k : κ} {c : Option Fault} (signal : Option Fault) (r : Reply κ)
      (hm : m = .cooperative) (h : Invoked T (.pending k c)) : Invoked (T ++ [⟨.executing, n, .resume k signal, r⟩]) r

/-- The attempt has failed. -/
def Failed (T : List (Exchange κ)) (f : Failure) : Prop := 
  ∃ r, Invoked m n T (.of r) ∧ m.read r = .ok f

/-- The judge has accepted the failure, if there is one. -/
inductive Accepted : List (Exchange κ) → Failure → Prop where
  | unjudged {T : List (Exchange κ)} {f : Failure} (hj : u.judge = none) (h : Failed m n T f) :
      Accepted T f
  | judged {T : List (Exchange κ)} {f : Failure} {r : Reply κ} (hj : u.judge.isSome)
      (h : Failed m n T f) (hr : r.accepts) : Accepted (T ++ [⟨.executing, n, .judge f.value, r⟩]) f

/-- The cursor has been advanced once. -/
inductive Advanced : List (Exchange κ) → Failure → Value → Prop where
  | mk {T : List (Exchange κ)} {f : Failure} {r : Reply κ} {d : Value} (h : Accepted m u n T f)
      (hd : r.delay? = some d) : Advanced (T ++ [⟨.executing, n, .advance, r⟩]) f d

/-- The retry has been reported in one line. -/
inductive Scheduled : List (Exchange κ) → Failure → Value → Prop where
  | mk {T : List (Exchange κ)} {f : Failure} {d : Value} (r : Reply κ) (h : Advanced m u n T f d) :
      Scheduled (T ++ [⟨.executing, n, .report (.scheduled n d f.value), r⟩]) f d

/-- The notifier has been told, if there is one. -/
inductive Notified : List (Exchange κ) → Failure → Value → Prop where
  | unnoticed {T : List (Exchange κ)} {f : Failure} {d : Value} (hn : u.notifier = none)
      (h : Scheduled m u n T f d) : Notified T f d
  | noticed {T : List (Exchange κ)} {f : Failure} {d : Value} {r : Reply κ} (hn : u.notifier.isSome)
      (h : Scheduled m u n T f d) (hr : ¬ r.isRaised) :
      Notified (T ++ [⟨.executing, n, .notify f.value d, r⟩]) f d

/-- The sleeper has been called, and resumed for as long as it was pending. -/
inductive Slept : List (Exchange κ) → Value → Reply κ → Prop where
  | sleep {T : List (Exchange κ)} {f : Failure} {d : Value} (r : Reply κ) (h : Notified m u n T f d) :
      Slept (T ++ [⟨.waiting, n, .sleep d, r⟩]) d r
  | resume {T : List (Exchange κ)} {d : Value} {k : κ} {c : Option Fault} (signal : Option Fault)
      (r : Reply κ) (hm : m = .cooperative) (h : Slept T d (.pending k c)) :
      Slept (T ++ [⟨.waiting, n, .resume k signal, r⟩]) d r

/-- A whole cycle: the sleep is done. -/
def Cycle (T : List (Exchange κ)) : Prop := ∃ d v, Slept m u n T d (.returned v)

/-- The last cycle of a drive, with how the drive ends. -/
inductive Closing : List (Exchange κ) → Outcome → Prop where
  | settled {T : List (Exchange κ)} {r : Except Fault Value} {o : Outcome} (h : Invoked m n T (.of r))
      (hr : m.read r = .error o) : Closing T o
  | refusedOperation {T : List (Exchange κ)} {k : κ} {c : Option Fault} (hm : m = .blocking)
      (h : Invoked m n T (.pending k c)) : Closing T (.raised (c.getD u.refusedOperation))
  | rejected {T : List (Exchange κ)} {f : Failure} {r : Reply κ} (r' : Reply κ) (hj : u.judge.isSome)
      (h : Failed m n T f) (hr : ¬ r.accepts) (hx : ¬ r.isRaised) :
      Closing (T ++ [⟨.executing, n, .judge f.value, r⟩,
        ⟨.executing, n, .report (.stopped n .notRetryable f.value), r'⟩]) f.outcome
  | judgeRaised {T : List (Exchange κ)} {f : Failure} (x : Fault) (hj : u.judge.isSome)
      (h : Failed m n T f) : Closing (T ++ [⟨.executing, n, .judge f.value, .raised x⟩])
        (.raised (m.leaving x))
  | exhausted {T : List (Exchange κ)} {f : Failure} {r : Reply κ} (r' : Reply κ) (h : Accepted m u n T f)
      (hr : r.isEnd) : Closing (T ++ [⟨.executing, n, .advance, r⟩,
        ⟨.executing, n, .report (.stopped n .backoffExhausted f.value), r'⟩]) f.outcome
  | advanceRaised {T : List (Exchange κ)} {f : Failure} (x : Fault) (h : Accepted m u n T f)
      (hx : ¬ x.isA .stopIteration) : Closing (T ++ [⟨.executing, n, .advance, .raised x⟩])
        (.raised (m.leaving x))
  | notifierRaised {T : List (Exchange κ)} {f : Failure} {d : Value} (x : Fault)
      (hn : u.notifier.isSome) (h : Scheduled m u n T f d) :
      Closing (T ++ [⟨.executing, n, .notify f.value d, .raised x⟩]) (.raised (m.leaving x))
  | sleeperRaised {T : List (Exchange κ)} {d : Value} {x : Fault} (h : Slept m u n T d (.raised x)) :
      Closing T (.raised (m.leaving x))
  | refusedSleeper {T : List (Exchange κ)} {d : Value} {k : κ} {c : Option Fault} (hm : m = .blocking)
      (h : Slept m u n T d (.pending k c)) : Closing T (.raised (c.getD u.refusedSleeper))

end Language

/-- What has been taken down before an attempt: one whole cycle for each attempt before. -/
inductive Before (m : Mode) (u : Setup ι) : Nat → List (Exchange κ) → Prop where
  | first : Before m u 1 []
  | next {n : Nat} {T C : List (Exchange κ)} (h : Before m u n T) (hc : Cycle m u n C) :
      Before m u (n + 1) (T ++ C)

end Reattempt
