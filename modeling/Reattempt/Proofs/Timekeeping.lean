import Reattempt.Proofs.Budgets
import Reattempt.Proofs.Conversion
import Reattempt.Rehearsal.Sleeper

/-!
# What a virtual clock tells

A clock takes a delay down before it moves on by it. So its record is of every call since the last reset, and its time
only of the calls that were slept: the two agree until a delay is refused, and then no more before the next reset. A
delay is refused if it is not a number, or if either it or the time is a binary number and the other a whole one that
is too large to be converted. Whole delays that grow without a cap all are from some delay on.
-/
namespace Reattempt

namespace Number

/-- Two numbers that can be added: both are whole, or neither is whole and too large to be converted. -/
def Summable (a b : Number) : Prop :=
  (a.int?.isSome ∧ b.int?.isSome) ∨
    (∀ i ∈ a.int?, i.natAbs < Binary64.wholeLimit) ∧ ∀ i ∈ b.int?, i.natAbs < Binary64.wholeLimit

theorem mixes_iff (a b : Number) : a.mixes b ↔ a.Summable b := by
  simp only [mixes, Summable, Bool.or_eq_true, Bool.and_eq_true, convertible_iff]

/-- Numbers added to another, the first one first. -/
def sum (start : Number) (ds : List Number) : Number := ds.foldl (· + ·) start

theorem sum_append (start : Number) (ds : List Number) (d : Number) : sum start (ds ++ [d]) = sum start ds + d :=
  List.foldl_append ..

/-- What starts as a binary number stays one. -/
theorem int?_sum {start : Number} (h : start.int? = none) (ds : List Number) : (sum start ds).int? = none := by
  induction ds generalizing start with
  | nil => exact h
  | cons d ds ih =>
    have hadd : (start + d).int? = none := congrArg int? (lift_eq_real _ _ (.inl h))
    exact ih hadd

end Number

/-! ## Whole delays without a cap -/

namespace Backoff

/-- A policy of whole numbers that nothing limits. -/
def unlimited (a f : Int) : Exponential := ⟨.whole a, none, .whole f, none⟩

variable {a f : Int}

theorem advance_unlimited (ha : 0 ≤ a) (hf : 1 ≤ f) (n : Nat) :
    ((unlimited a f).build.after n).advance.1 = .ok (some (.int (a * f ^ n))) := by
  have hnth := Growing.exponential_nth ha hf none none n
  rw [if_pos nofun, Option.map_none] at hnth
  rw [unlimited, Exponential.build, Cursor.advance_after_growing, hnth]
  rfl

theorem wholeLimit_le_growth (ha : 1 ≤ a) (hf : 2 ≤ f) {n : Nat} (hn : 1024 ≤ n) :
    Binary64.wholeLimit ≤ (a * f ^ n).natAbs := by
  have hlimit : Binary64.wholeLimit ≤ 2 ^ 1024 := by decide +kernel
  have htwo : 2 ^ 1024 ≤ 2 ^ n := pow_le_pow_right₀ one_le_two hn
  have hpow : 2 ^ n ≤ f.natAbs ^ n := Nat.pow_le_pow_left (by omega) n
  have hmul : f.natAbs ^ n ≤ a.natAbs * f.natAbs ^ n := Nat.le_mul_of_pos_left _ (by omega)
  rw [Int.natAbs_mul, Int.natAbs_pow]
  exact hlimit.trans (htwo.trans (hpow.trans hmul))

end Backoff

namespace Rehearsal.Clock

/-! ## Turns of a clock -/

/-- What is done to a clock. -/
inductive Turn where
  | sleep (delay : Value)
  | reset

def turn (c : Clock) : Turn → Clock
  | .sleep delay => (c.sleep delay).2
  | .reset => c.reset

/-- One turn after another. -/
def run (c : Clock) : List Turn → Clock
  | [] => c
  | t :: ts => (c.turn t).run ts

/-- A call, and what it came to. -/
structure Call where
  delay : Value
  answer : Except Fault Unit

/-- The calls since the last reset, after some others. -/
def calls (c : Clock) (past : List Call) : List Turn → List Call
  | [] => past
  | .sleep delay :: ts => (c.sleep delay).2.calls (past ++ [⟨delay, (c.sleep delay).1⟩]) ts
  | .reset :: ts => c.reset.calls [] ts

namespace Call

def isSlept (q : Call) : Bool := q.answer.isOk

/-- The delays of those calls that were slept. -/
def slept (calls : List Call) : List Value := (calls.filter isSlept).map delay

theorem slept_append (calls : List Call) (q : Call) :
    slept (calls ++ [q]) = slept calls ++ if q.isSlept then [q.delay] else [] := by
  by_cases h : q.isSlept <;> simp [slept, h]

/-- The first call that was refused decides. -/
theorem forM_append (calls : List Call) (q : Call) :
    forM (calls ++ [q]) answer = forM calls answer >>= fun _ => q.answer := by
  rw [List.forM_append]
  cases forM calls answer <;> cases h : q.answer <;> simp [h]

theorem forM_eq_ok_iff (calls : List Call) : forM calls answer = .ok () ↔ ∀ q ∈ calls, q.isSlept := by
  induction calls with
  | nil => exact iff_of_true rfl nofun
  | cons q calls ih =>
    rw [List.forall_mem_cons, ← ih, List.forM_cons, isSlept]
    cases q.answer with
    | error x => exact iff_of_false nofun fun h => nomatch h.1
    | ok u => exact (and_iff_right rfl).symm

end Call

/-- What the record comes to: its delays added to the start, the first one first. -/
def total (c : Clock) : Except Fault Value := c.delays.foldlM added c.start

/-! ## One call -/

/-- Why a delay is refused. -/
inductive Refused (now : Number) : Value → Fault → Prop where
  | tooLarge {d : Number} (h : ¬ now.Summable d) : Refused now (.num d) Fault.unconvertible
  | notNumber {v : Value} (h : v.number? = none) : Refused now v
      (Fault.typeError ("unsupported operand type(s) for +=: '" ++ (Value.num now).kind ++ "' and '" ++ v.kind ++ "'"))

/-- A call comes to what the addition does. -/
theorem added_eq_map (c : Clock) (delay : Value) :
    added c.now delay = (c.sleep delay).1.map fun _ => (c.sleep delay).2.now := by
  simp only [sleep]
  split <;> simp_all [Except.map]

theorem total_sleep {c : Clock} {delay : Value} (h : (c.sleep delay).2.start = c.start) :
    (c.sleep delay).2.total = c.total >>= (added · delay) := by
  simp only [total, h, delays_sleep, List.foldlM_append, List.foldlM_cons, List.foldlM_nil, bind_pure]

section Sleep

variable {c : Clock} {now : Number} {delay : Value} {x : Fault}

/-- A delay that is slept moves the clock on, and one that is refused is taken down all the same. -/
theorem sleep_cases (h : c.now = .num now) (delay : Value) :
    (∃ d, delay = .num d ∧ now.Summable d ∧
      c.sleep delay = (.ok (), { c with now := .num (now + d), delays := c.delays ++ [delay] })) ∨
    ∃ x, Refused now delay x ∧ c.sleep delay = (.error x, { c with delays := c.delays ++ [delay] }) := by
  cases hd : delay.number? with
  | some d =>
    obtain rfl : delay = .num d := by
      cases delay <;> cases hd
      rfl
    by_cases hsum : now.Summable d
    · have hadded : added (.num now) (.num d) = .ok (.num (now + d)) := if_pos ((now.mixes_iff d).mpr hsum)
      exact .inl ⟨d, rfl, hsum, by simp only [sleep, h, hadded]⟩
    · have hadded : added (.num now) (.num d) = .error Fault.unconvertible :=
        if_neg (mt (now.mixes_iff d).mp hsum)
      exact .inr ⟨_, .tooLarge hsum, by simp only [sleep, h, hadded]⟩
  | none =>
    refine .inr ⟨_, .notNumber hd, ?_⟩
    cases delay with
    | num d => cases hd
    | _ => simp only [sleep, h, added]

theorem Refused.not_summable (h : Refused now delay x) : ¬ ∃ d, delay = .num d ∧ now.Summable d := by
  rintro ⟨d, rfl, hsum⟩
  cases h with
  | tooLarge h => exact h hsum
  | notNumber h => cases h

theorem Refused.unique {y : Fault} (hx : Refused now delay x) (hy : Refused now delay y) : x = y := by
  cases hx with
  | tooLarge =>
    cases hy with
    | tooLarge => rfl
    | notNumber h => cases h
  | notNumber h =>
    cases hy with
    | tooLarge => cases h
    | notNumber => rfl

theorem sleep_eq_error_iff (h : c.now = .num now) : (c.sleep delay).1 = .error x ↔ Refused now delay x := by
  rcases sleep_cases h delay with ⟨d, hd, hsum, hsleep⟩ | ⟨y, hy, hsleep⟩
  · rw [hsleep]
    exact iff_of_false nofun fun hx => hx.not_summable ⟨d, hd, hsum⟩
  · rw [hsleep]
    exact ⟨fun hx => Except.error.inj hx ▸ hy, fun hx => congrArg _ (hy.unique hx)⟩

/-- A call that is refused changes the record and nothing else. -/
theorem sleep_of_error (h : c.now = .num now) (hx : (c.sleep delay).1 = .error x) :
    (c.sleep delay).2 = { c with delays := c.delays ++ [delay] } := by
  rcases sleep_cases h delay with ⟨d, -, -, hsleep⟩ | ⟨y, -, hsleep⟩
  · rw [hsleep] at hx
    cases hx
  · rw [hsleep]

/-- A whole number that is too large cannot be added to a binary one. -/
theorem refused_of_wholeLimit_le (h : now.int? = none) {i : Int} (hi : Binary64.wholeLimit ≤ i.natAbs) :
    Refused now (.int i) Fault.unconvertible := by
  refine .tooLarge ?_
  rintro (⟨hwhole, -⟩ | ⟨-, hsmall⟩)
  · rw [h] at hwhole
    cases hwhole
  · exact absurd (hsmall i rfl) (not_lt.mpr hi)

end Sleep

/-! ## All calls since the last reset -/

/-- The record is of every call and the time of those that were slept. The record comes to the time, unless a call was
refused: then it comes to nothing, and for the same reason. -/
structure Keeps (start : Number) (past : List Call) (c : Clock) : Prop where
  origin : c.start = .num start
  record : c.delays = past.map Call.delay
  time : ∃ ds, Call.slept past = ds.map .num ∧ c.now = .num (start.sum ds)
  total : c.total = (forM past Call.answer).map fun _ => c.now

namespace Keeps

variable {start : Number} {past : List Call} {c : Clock}

theorem make (start : Number) : Keeps start [] (make (.num start)) := ⟨rfl, rfl, ⟨[], rfl, rfl⟩, rfl⟩

theorem sleep (h : Keeps start past c) (delay : Value) :
    Keeps start (past ++ [⟨delay, (c.sleep delay).1⟩]) (c.sleep delay).2 := by
  obtain ⟨ds, hslept, hnow⟩ := h.time
  have htotal : (c.sleep delay).2.start = c.start → (c.sleep delay).2.total =
      (forM (past ++ [⟨delay, (c.sleep delay).1⟩]) Call.answer).map fun _ => (c.sleep delay).2.now := by
    intro hstart
    rw [total_sleep hstart, h.total, Call.forM_append]
    cases forM past Call.answer with
    | error x => rfl
    | ok u => exact added_eq_map c delay
  have hrecord : (c.sleep delay).2.delays = List.map Call.delay (past ++ [⟨delay, (c.sleep delay).1⟩]) := by
    rw [delays_sleep, h.record, List.map_append]
    rfl
  rcases sleep_cases hnow delay with ⟨d, rfl, -, hsleep⟩ | ⟨x, -, hsleep⟩
  · rw [hsleep] at htotal hrecord ⊢
    refine ⟨h.origin, hrecord, ⟨ds ++ [d], ?_, ?_⟩, htotal rfl⟩
    · rw [Call.slept_append, hslept, List.map_append]
      rfl
    · rw [Number.sum_append]
  · rw [hsleep] at htotal hrecord ⊢
    refine ⟨h.origin, hrecord, ⟨ds, ?_, hnow⟩, htotal rfl⟩
    rw [Call.slept_append, hslept]
    exact List.append_nil _

/-- A reset forgets the calls and goes back to the start. -/
theorem reset (h : Keeps start past c) : Keeps start [] c.reset := by
  have hreset : c.reset = Clock.make (.num start) := congrArg Clock.make h.origin
  rw [hreset]
  exact Keeps.make start

theorem run (h : Keeps start past c) (turns : List Turn) : Keeps start (c.calls past turns) (c.run turns) := by
  induction turns generalizing past c with
  | nil => exact h
  | cons t ts ih =>
    cases t with
    | sleep delay => exact ih (h.sleep delay)
    | reset => exact ih h.reset

theorem total_eq_ok_iff (h : Keeps start past c) : c.total = .ok c.now ↔ ∀ q ∈ past, q.isSlept := by
  rw [h.total, ← Call.forM_eq_ok_iff]
  cases forM past Call.answer with
  | error x => exact iff_of_false nofun nofun
  | ok u => exact iff_of_true rfl rfl

theorem length_eq_iff (h : Keeps start past c) :
    c.delays.length = (Call.slept past).length ↔ ∀ q ∈ past, q.isSlept := by
  rw [h.record, Call.slept, List.length_map, List.length_map, eq_comm, List.length_filter_eq_length_iff]

/-- Once a delay is refused, the record comes to no time. -/
theorem total_ne_of_error (h : Keeps start past c) {delay : Value} {x : Fault} (hx : (c.sleep delay).1 = .error x) :
    (c.sleep delay).2.total ≠ .ok (c.sleep delay).2.now := by
  intro htotal
  have hall := (h.sleep delay).total_eq_ok_iff.mp htotal
  have hlast := hall _ (List.mem_append_right _ (List.mem_singleton.mpr rfl))
  rw [Call.isSlept, hx] at hlast
  cases hlast

end Keeps

/-- A clock that starts at a number, after any turns. Its record is of all calls since the last reset, and its time is
the start with the delays that were slept added, the first one first. So the record comes to the time, and has as many
delays as were slept, just if no call since then was refused. A delay is refused for one of two reasons; then it is
taken down, and nothing else changes. A clock that starts at a binary number refuses the delays of a whole policy that
nothing limits from the 1025th on, if each is twice the one before or more. -/
theorem time_and_record_agree_iff (start : Number) (turns : List Turn) :
    let c := (make (.num start)).run turns
    let past := (make (.num start)).calls [] turns
    c.start = .num start ∧ c.delays = past.map Call.delay ∧
    (c.total = .ok c.now ↔ ∀ q ∈ past, q.isSlept) ∧
    (c.delays.length = (Call.slept past).length ↔ ∀ q ∈ past, q.isSlept) ∧
    (∃ ds, Call.slept past = ds.map .num ∧ c.now = .num (start.sum ds) ∧
      ∀ delay x, (c.sleep delay).1 = .error x ↔ Refused (start.sum ds) delay x) ∧
    (∀ delay x, (c.sleep delay).1 = .error x → (c.sleep delay).2 = { c with delays := c.delays ++ [delay] }) ∧
    (start.int? = none → ∀ a f : Int, 1 ≤ a → 2 ≤ f → ∀ n, 1024 ≤ n → ∃ d,
      ((Backoff.unlimited a f).build.after n).advance.1 = .ok (some d) ∧
        (c.sleep d).1 = .error Fault.unconvertible) := by
  intro c past
  have hkeeps : Keeps start past c := (Keeps.make start).run turns
  obtain ⟨ds, hslept, hnow⟩ := hkeeps.time
  refine ⟨hkeeps.origin, hkeeps.record, hkeeps.total_eq_ok_iff, hkeeps.length_eq_iff,
    ⟨ds, hslept, hnow, fun delay x => sleep_eq_error_iff hnow⟩, fun delay x hx => sleep_of_error hnow hx, ?_⟩
  intro hstart a f ha hf n hn
  have hlarge := Backoff.wholeLimit_le_growth ha hf hn
  have hrefused := refused_of_wholeLimit_le (Number.int?_sum hstart ds) hlarge
  exact ⟨_, Backoff.advance_unlimited (by omega) (by omega) n, (sleep_eq_error_iff hnow).mpr hrefused⟩

/-- After a reset a refused delay is forgotten. What has been doubled 1024 times is refused again. -/
theorem doubled_delay_is_refused :
    let c := (make (.num (.real .zero))).run [.sleep (.int (Nat.pow 10 400)), .reset, .sleep (.int 7)]
    c.total = .ok c.now ∧ ∃ d, ((Backoff.unlimited 1 2).build.after 1024).advance.1 = .ok (some d) ∧
      (c.sleep d).1 = .error Fault.unconvertible := by
  have h := time_and_record_agree_iff (.real .zero) [.sleep (.int (Nat.pow 10 400)), .reset, .sleep (.int 7)]
  obtain ⟨-, -, htotal, -, -, -, hgrowth⟩ := h
  refine ⟨htotal.mpr (List.all_eq_true.mp (by decide +kernel)), ?_⟩
  exact hgrowth rfl 1 2 (by decide) (by decide) 1024 le_rfl

/-- The second delay of a policy is refused by a clock that has slept the first. The record has it all the same, and
comes to no time any more. -/
theorem refused_delay_is_recorded : ∃ p d d',
    Backoff.Exponential.make (.int (Nat.pow 10 200)) .none (.int (Nat.pow 10 200)) .none = .ok p ∧
      p.build.advance.1 = .ok (some d) ∧ (p.build.after 1).advance.1 = .ok (some d') ∧
      let c := ((make (.num (.real .zero))).sleep d).2
      c.total = .ok c.now ∧ c.delays.length = 1 ∧
      (c.sleep d').1 = .error Fault.unconvertible ∧ (c.sleep d').2.now = c.now ∧
      (c.sleep d').2.delays.length = 2 ∧ (c.sleep d').2.total ≠ .ok (c.sleep d').2.now := by
  have hmade : Backoff.Exponential.make (.int (Nat.pow 10 200)) .none (.int (Nat.pow 10 200)) .none =
      .ok (Backoff.unlimited (Nat.pow 10 200) (Nat.pow 10 200)) := Fault.eq_ok_of_toOption (by decide +kernel)
  have hnth := Backoff.advance_unlimited (a := Nat.pow 10 200) (f := Nat.pow 10 200) (by omega) (by decide +kernel)
  refine ⟨_, _, _, hmade, hnth 0, hnth 1, ?_⟩
  intro c
  have hkeeps : Keeps (.real .zero) _ c := (Keeps.make (.real .zero)).sleep _
  obtain ⟨ds, -, hnow⟩ := hkeeps.time
  have hslept := hkeeps.total_eq_ok_iff.mpr (List.all_eq_true.mp (by decide +kernel))
  have hreal : (Number.sum (.real .zero) ds).int? = none := Number.int?_sum rfl ds
  have herror := (sleep_eq_error_iff hnow).mpr (refused_of_wholeLimit_le hreal
    (i := Nat.pow 10 200 * Nat.pow 10 200 ^ 1) (by decide +kernel))
  have hone : c.delays.length = 1 := by
    rw [hkeeps.record, List.length_map]
    rfl
  refine ⟨hslept, hone, herror, ?_, ?_, hkeeps.total_ne_of_error herror⟩
  · rw [sleep_of_error hnow herror]
  · rw [delays_sleep, List.length_append, hone]
    rfl

end Rehearsal.Clock

end Reattempt
