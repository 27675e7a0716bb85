import Reattempt.Value.Text
import Reattempt.Signature

/-!
# Notices of retries

A notifier writes one record for every scheduled retry. It counts the retries it has seen, and its
context is added to every record as it is. What becomes of a record is up to the logger, of which
no more is known than what a method of it is called by.
-/
namespace Reattempt

/-- A record of a log: its level, what happened, and named values. -/
structure Notice where
  level : String
  event : String
  fields : Keywords
  deriving Inhabited

/-- A method of a logger, with what it does with an event and named values. -/
structure Logger.Method (σ α : Type) where
  /-- What the method is called by in complaints about its arguments. -/
  title : String
  write : String → Keywords → σ → Except Fault α × σ

instance (σ α : Type) : CoeFun (Logger.Method σ α) fun _ => String → Keywords → σ → Except Fault α × σ :=
  ⟨Logger.Method.write⟩

/-- The complaint about a value that is given twice by one name. -/
def Logger.Method.repeated {σ α : Type} (write : Logger.Method σ α) (name : String) : Fault :=
  Fault.typeError (write.title ++ "() got multiple values for keyword argument '" ++ name ++ "'")

structure Notifier where
  level : String
  event : String
  context : Keywords
  retries : Nat
  deriving Inhabited

namespace Notifier

def own : List String := ["retry", "delay", "error_type", "error"]

/-- The named values of the record of a retry: its own, and then the context. -/
def entries (n : Notifier) (retry : Nat) (error delay : Value) (text : String) : Keywords :=
  [("retry", .int retry), ("delay", delay), ("error_type", .str error.kind), ("error", .str text)] ++ n.context

section Record

variable {σ α : Type}

/-- What a method is given for a retry, unless the context repeats one of the record's own names. -/
def given (n : Notifier) (write : Logger.Method σ α) (retry : Nat) (error delay : Value) : Except Fault Keywords := do
  let text ← error.text
  match n.context.find? (·.1 ∈ own) with
  | some (k, _) => throw (write.repeated k)
  | none => return n.entries retry error delay text

/-- The record of a scheduled retry, handed to a method of a logger, which is looked up before anything else. -/
def record (n : Notifier) (method : Except Fault (Logger.Method σ α)) (retry : Nat) (error delay : Value) (s : σ) :
    Except Fault α × σ :=
  match method with
  | .error x => (.error x, s)
  | .ok write =>
    match n.given write retry error delay with
    | .error x => (.error x, s)
    | .ok given => write n.event given s

/-- A retry is counted even if its record cannot be written. -/
def notify (n : Notifier) (method : Except Fault (Logger.Method σ α)) (error delay : Value) (s : σ) :
    (Except Fault α × σ) × Notifier :=
  (n.record method (n.retries + 1) error delay s, { n with retries := n.retries + 1 })

/-- The context repeats none of the record's own names. -/
def IsClear (n : Notifier) : Prop := ∀ e ∈ n.context, e.1 ∉ own

theorem record_of_text {n : Notifier} (h : n.IsClear) (write : Logger.Method σ α) (retry : Nat) {error : Value}
    {text : String} (ht : error.text = .ok text) (delay : Value) (s : σ) :
    n.record (.ok write) retry error delay s = write n.event (n.entries retry error delay text) s := by
  have hfind : n.context.find? (·.1 ∈ own) = none := List.find?_eq_none.mpr fun e he => by simpa using h e he
  have hgiven : n.given write retry error delay = .ok (n.entries retry error delay text) := by
    unfold given
    rw [ht, hfind]
    rfl
  simp only [record, hgiven]

theorem record_of_text_error (n : Notifier) (write : Logger.Method σ α) (retry : Nat) {error : Value} {y : Fault}
    (ht : error.text = .error y) (delay : Value) (s : σ) :
    n.record (.ok write) retry error delay s = (.error y, s) := by
  have hgiven : n.given write retry error delay = .error y := by
    unfold given
    rw [ht]
    rfl
  simp only [record, hgiven]

end Record

def signature : Signature :=
  ⟨"LogNotifier.__init__", true, [Signature.optional "logger" .none,
    Signature.keyword "level" (.str "warning"), Signature.keyword "event" (.str "retry_scheduled")], true⟩

/-- A notifier with its defaults; its context is whatever keywords are left. -/
def unused (level event : Option String) (context : Keywords) : Except Fault Notifier :=
  match signature.refused? [.none] context with
  | some f => .error f
  | none => .ok ⟨level.getD "warning", event.getD "retry_scheduled", context, 0⟩

end Notifier

end Reattempt
