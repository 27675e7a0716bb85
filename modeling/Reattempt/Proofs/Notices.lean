import Reattempt.Notice
import Reattempt.Proofs.Finality

/-!
# The records of a drive

A notifier counts the retries that it is told of, an engine its attempts, and a cursor its delays. In whole
cycles all of these go up together, and so the record of the `i`-th retry is that of the `i`-th failure and the
`i`-th delay. Only in the last cycle of a drive may there be a failure without a delay, a delay without a
record, or a record without a sleep.
-/
namespace Reattempt

variable {ι κ σ : Type}

/-! ## What a transcript tells of -/

/-- How an attempt has failed that comes to a reply. -/
def Reply.failure? (m : Mode) : Reply κ → Option Value
  | .returned v => (m.read (.ok v)).toOption.map Failure.value
  | .raised x => (m.read (.error x)).toOption.map Failure.value
  | .pending .. => none

theorem Reply.failure?_of {m : Mode} {r : Except Fault Value} {f : Failure} (h : m.read r = .ok f) :
    (Reply.of r : Reply κ).failure? m = some f.value := by
  cases r <;> simp only [Reply.of, Reply.failure?, h] <;> rfl

namespace Exchange

def failure? (m : Mode) (q : Exchange κ) : Option Value :=
  if q.duty? = some .operate then q.reply.failure? m else none

/-- The delay that the cursor has handed out. -/
def drawn? (q : Exchange κ) : Option Value :=
  match q.ask with
  | .advance => q.reply.delay?
  | _ => none

/-- What the notifier is told, and at which attempt. -/
def notice? (q : Exchange κ) : Option (Nat × Value × Value) :=
  match q.ask with
  | .notify error delay => some (q.attempts, error, delay)
  | _ => none

def failures (m : Mode) (T : List (Exchange κ)) : List Value := T.filterMap (failure? m)

def delays (T : List (Exchange κ)) : List Value := T.filterMap drawn?

def notices (T : List (Exchange κ)) : List (Nat × Value × Value) := T.filterMap notice?

end Exchange

/-- The failures, delays and notices of a transcript, and how often the sleeper has been asked. -/
structure Tells (m : Mode) (T : List (Exchange κ)) (fs ds : List Value) (ns : List (Nat × Value × Value))
    (sleeps : Nat) : Prop where
  failures : Exchange.failures m T = fs
  delays : Exchange.delays T = ds
  notices : Exchange.notices T = ns
  sleeps : Duty.sleep.times T = sleeps

section Language

variable {m : Mode} {u : Setup ι} {n : Nat} {T U : List (Exchange κ)}

theorem Tells.append {fs ds fs' ds' : List Value} {ns ns' : List (Nat × Value × Value)} {k k' : Nat}
    (h : Tells m T fs ds ns k) (h' : Tells m U fs' ds' ns' k') :
    Tells m (T ++ U) (fs ++ fs') (ds ++ ds') (ns ++ ns') (k + k') where
  failures := by rw [Exchange.failures, List.filterMap_append, ← h.failures, ← h'.failures]; rfl
  delays := by rw [Exchange.delays, List.filterMap_append, ← h.delays, ← h'.delays]; rfl
  notices := by rw [Exchange.notices, List.filterMap_append, ← h.notices, ← h'.notices]; rfl
  sleeps := by rw [Duty.times_append, h.sleeps, h'.sleeps]

/-- What is told of nothing may be left out. -/
theorem Tells.of_append {fs ds : List Value} {ns : List (Nat × Value × Value)} {k : Nat}
    (h : Tells m (T ++ U) fs ds ns k) (hU : Tells m U [] [] [] 0) : Tells m T fs ds ns k := by
  have hT : Tells m T (Exchange.failures m T) (Exchange.delays T) (Exchange.notices T) (Duty.sleep.times T) :=
    ⟨rfl, rfl, rfl, rfl⟩
  have hall := hT.append hU
  simp only [List.append_nil, Nat.add_zero] at hall
  exact ⟨hall.failures.symm.trans h.failures, hall.delays.symm.trans h.delays, hall.notices.symm.trans h.notices,
    hall.sleeps.symm.trans h.sleeps⟩

/-! ## One cycle -/

theorem tells_nil : Tells m ([] : List (Exchange κ)) [] [] [] 0 := ⟨rfl, rfl, rfl, rfl⟩

theorem tells_invoke (r : Reply κ) : Tells m [⟨.executing, n, .invoke, r⟩] (r.failure? m).toList [] [] 0 := by
  refine ⟨?_, rfl, rfl, rfl⟩
  change List.filterMap _ [_] = _
  cases h : r.failure? m <;> simp [Exchange.failure?, Exchange.duty?, Ask.duty?, h]

theorem tells_resume (k : κ) (signal : Option Fault) (r : Reply κ) :
    Tells m [⟨.executing, n, .resume k signal, r⟩] (r.failure? m).toList [] [] 0 := by
  refine ⟨?_, rfl, rfl, rfl⟩
  change List.filterMap _ [_] = _
  cases h : r.failure? m <;> simp [Exchange.failure?, Exchange.duty?, h]

theorem tells_judge (error : Value) (r : Reply κ) :
    Tells m [⟨.executing, n, .judge error, r⟩] [] [] [] 0 := ⟨rfl, rfl, rfl, rfl⟩

theorem tells_advance (r : Reply κ) : Tells m [⟨.executing, n, .advance, r⟩] [] r.delay?.toList [] 0 := by
  refine ⟨rfl, ?_, rfl, rfl⟩
  change List.filterMap _ [_] = _
  cases h : r.delay? <;> simp [Exchange.drawn?, h]

theorem tells_end {r : Reply κ} (h : r.delay? = none) :
    Tells m [⟨.executing, n, .advance, r⟩] [] [] [] 0 := by
  have htells := tells_advance (m := m) (n := n) r
  rwa [h] at htells

theorem tells_report (line : Line) (r : Reply κ) :
    Tells m [⟨.executing, n, .report line, r⟩] [] [] [] 0 := ⟨rfl, rfl, rfl, rfl⟩

theorem tells_notify (error delay : Value) (r : Reply κ) :
    Tells m [⟨.executing, n, .notify error delay, r⟩] [] [] [(n, error, delay)] 0 := ⟨rfl, rfl, rfl, rfl⟩

theorem tells_sleep (delay : Value) (r : Reply κ) :
    Tells m [⟨.waiting, n, .sleep delay, r⟩] [] [] [] 1 := ⟨rfl, rfl, rfl, rfl⟩

theorem tells_doze (k : κ) (signal : Option Fault) (r : Reply κ) :
    Tells m [⟨.waiting, n, .resume k signal, r⟩] [] [] [] 0 := ⟨rfl, rfl, rfl, rfl⟩

theorem Invoked.tells {r : Reply κ} (h : Invoked m n T r) : Tells m T (r.failure? m).toList [] [] 0 := by
  induction h with
  | call r => exact tells_invoke r
  | resume signal r hm h ih => exact ih.append (tells_resume _ signal r)

theorem Failed.tells {f : Failure} (h : Failed m n T f) : Tells m T [f.value] [] [] 0 := by
  obtain ⟨r, hi, hr⟩ := h
  have htells := hi.tells
  rwa [Reply.failure?_of hr] at htells

theorem Accepted.tells {f : Failure} (h : Accepted m u n T f) : Tells m T [f.value] [] [] 0 := by
  cases h with
  | unjudged hj h => exact h.tells
  | judged hj h hr => exact h.tells.append (tells_judge _ _)

theorem Advanced.tells {f : Failure} {d : Value} (h : Advanced m u n T f d) :
    Tells m T [f.value] [d] [] 0 := by
  cases h with
  | @mk _ _ r _ h hd =>
    have htells := h.tells.append (tells_advance (n := n) r)
    rwa [hd] at htells

theorem Scheduled.tells {f : Failure} {d : Value} (h : Scheduled m u n T f d) :
    Tells m T [f.value] [d] [] 0 := by
  obtain ⟨r, h⟩ := h
  exact h.tells.append (tells_report _ r)

theorem Notified.tells {f : Failure} {d : Value} (hn : u.notifier.isSome) (h : Notified m u n T f d) :
    Tells m T [f.value] [d] [(n, f.value, d)] 0 := by
  cases h with
  | unnoticed hnone h => simp [hnone] at hn
  | noticed hn h hr => exact h.tells.append (tells_notify _ _ _)

theorem Slept.tells {d : Value} {r : Reply κ} (hn : u.notifier.isSome) (h : Slept m u n T d r) :
    ∃ f, Tells m T [f] [d] [(n, f, d)] 1 := by
  induction h with
  | sleep r h => exact ⟨_, (h.tells hn).append (tells_sleep _ r)⟩
  | resume signal r hm h ih =>
    obtain ⟨f, ih⟩ := ih
    exact ⟨f, ih.append (tells_doze _ signal r)⟩

/-! ## How far a cycle has come -/

/-- What a cycle tells of that has come to some place, or to its end. -/
inductive Portion (n : Nat) : List Value → List Value → List (Nat × Value × Value) → Nat → Prop where
  | opened : Portion n [] [] [] 0
  | failed (f : Value) : Portion n [f] [] [] 0
  | drawn (f d : Value) : Portion n [f] [d] [] 0
  | noticed (f d : Value) : Portion n [f] [d] [(n, f, d)] 0
  | slept (f d : Value) : Portion n [f] [d] [(n, f, d)] 1

/-- Each notice is told at the attempt of its number, of the failure and the delay of that number. -/
def Numbered (fs ds : List Value) (ns : List (Nat × Value × Value)) : Prop :=
  ∀ i p, ns[i]? = some p → p.1 = i + 1 ∧ fs[i]? = some p.2.1 ∧ ds[i]? = some p.2.2

/-- What whole cycles tell of. -/
structure Past (n : Nat) (fs ds : List Value) (ns : List (Nat × Value × Value)) : Prop where
  failures : fs.length + 1 = n
  delays : ds.length + 1 = n
  notices : ns.length + 1 = n
  numbered : Numbered fs ds ns

theorem Past.numbered_append {fs ds fs' ds' : List Value} {ns ns' : List (Nat × Value × Value)} {k : Nat}
    (h : Past n fs ds ns) (h' : Portion n fs' ds' ns' k) : Numbered (fs ++ fs') (ds ++ ds') (ns ++ ns') := by
  intro i p hp
  have hf := h.failures
  have hd := h.delays
  have hn := h.notices
  by_cases hi : i < ns.length
  · rw [List.getElem?_append_left hi] at hp
    obtain ⟨hnumber, hfail, hdelay⟩ := h.numbered i p hp
    rw [List.getElem?_append_left (by omega), List.getElem?_append_left (by omega)]
    exact ⟨hnumber, hfail, hdelay⟩
  · have hplace : ∀ {f d : Value}, [(n, f, d)][i - ns.length]? = some p → fs' = [f] → ds' = [d] →
        p.1 = i + 1 ∧ (fs ++ fs')[i]? = some p.2.1 ∧ (ds ++ ds')[i]? = some p.2.2 := by
      rintro f d hp rfl rfl
      rw [List.getElem?_singleton] at hp
      split at hp
      · next hlast =>
        cases hp
        refine ⟨by omega, ?_, ?_⟩
        · rw [show i = fs.length by omega, List.getElem?_concat_length]
        · rw [show i = ds.length by omega, List.getElem?_concat_length]
      · cases hp
    rw [List.getElem?_append_right (Nat.not_lt.mp hi)] at hp
    cases h' with
    | noticed f d => exact hplace hp rfl rfl
    | slept f d => exact hplace hp rfl rfl
    | _ => cases hp

/-- One whole cycle more. -/
theorem Past.next {fs ds : List Value} {ns : List (Nat × Value × Value)} (h : Past n fs ds ns) (f d : Value) :
    Past (n + 1) (fs ++ [f]) (ds ++ [d]) (ns ++ [(n, f, d)]) where
  failures := by rw [List.length_append, List.length_singleton, h.failures]
  delays := by rw [List.length_append, List.length_singleton, h.delays]
  notices := by rw [List.length_append, List.length_singleton, h.notices]
  numbered := h.numbered_append (.slept f d)

theorem Before.tells (hn : u.notifier.isSome) (h : Before m u n T) :
    ∃ fs ds ns, Tells m T fs ds ns (n - 1) ∧ Past n fs ds ns := by
  induction h with
  | first => exact ⟨[], [], [], tells_nil, rfl, rfl, rfl, fun i p hp => by cases hp⟩
  | @next n T C h hc ih =>
    obtain ⟨fs, ds, ns, htells, hpast⟩ := ih
    obtain ⟨d, v, hs⟩ := hc
    obtain ⟨f, hcycle⟩ := hs.tells hn
    have hpos := h.pos
    have happend := htells.append hcycle
    rw [Nat.sub_add_cancel hpos] at happend
    exact ⟨_, _, _, happend, hpast.next f d⟩

/-! ## The last cycle -/

/-- How many notices and sleeps there are in a cycle that an exchange ends. -/
def Exchange.reach (q : Exchange κ) : Nat × Nat :=
  match q.duty? with
  | some .notify => (1, 0)
  | some .sleep => (1, 1)
  | _ => (0, 0)

/-- What a cycle tells of that ends with an exchange. -/
structure LastTells (m : Mode) (n : Nat) (T : List (Exchange κ)) (q : Exchange κ) (fs ds : List Value)
    (ns : List (Nat × Value × Value)) (sleeps : Nat) : Prop where
  last : ∃ before, T = before ++ [q]
  tells : Tells m T fs ds ns sleeps
  part : Portion n fs ds ns sleeps
  delays : ds.length = ns.length
  reach : (ns.length, sleeps) = q.reach
  raised : q.duty? = some .notify → q.reply.isRaised

theorem Invoked.lastTells {r : Reply κ} (h : Invoked m n T r) (hr : r.failure? m = none) :
    ∃ q fs ds ns k, LastTells m n T q fs ds ns k := by
  obtain ⟨before, q, hT, hq⟩ : ∃ before q, T = before ++ [q] ∧ q.duty? = some .operate := by
    cases h with
    | call r => exact ⟨[], _, rfl, rfl⟩
    | resume signal r hm h => exact ⟨_, _, rfl, rfl⟩
  have htells := h.tells
  rw [hr] at htells
  refine ⟨q, _, _, _, _, ⟨before, hT⟩, htells, .opened, rfl, by simp [Exchange.reach, hq], fun h => ?_⟩
  rw [hq] at h
  cases h

theorem Slept.lastTells {d : Value} {r : Reply κ} (hn : u.notifier.isSome) (h : Slept m u n T d r) :
    ∃ q fs ds ns k, LastTells m n T q fs ds ns k := by
  obtain ⟨f, htells⟩ := h.tells hn
  obtain ⟨before, a, hT, -, ha⟩ := h.last
  refine ⟨_, _, _, _, _, ⟨before, hT⟩, htells, .slept f d, rfl, ?_, ?_⟩
  · rcases ha with rfl | ⟨-, k, signal, rfl⟩ <;> rfl
  · rcases ha with rfl | ⟨-, k, signal, rfl⟩ <;> exact fun h => by cases h

theorem Closing.lastTells {o : Outcome} (hn : u.notifier.isSome) (h : Closing m u n T o) :
    ∃ q fs ds ns k, LastTells m n T q fs ds ns k := by
  cases h with
  | @settled T r o h hr =>
    refine h.lastTells ?_
    cases r <;> simp only [Reply.of, Reply.failure?, hr] <;> rfl
  | refusedOperation hm h => exact h.lastTells rfl
  | rejected r' hj h hr hx =>
    rw [List.append_cons]
    exact ⟨_, _, _, _, _, ⟨_, rfl⟩, (h.tells.append (tells_judge _ _)).append (tells_report _ r'), .failed _, rfl, rfl,
      fun h => by cases h⟩
  | judgeRaised x hj h =>
    exact ⟨_, _, _, _, _, ⟨_, rfl⟩, h.tells.append (tells_judge _ _), .failed _, rfl, rfl, fun h => by cases h⟩
  | @exhausted T f r r' h hr =>
    have hnone : r.delay? = none := by
      cases r with
      | raised x => rfl
      | _ => exact Option.isNone_iff_eq_none.mp hr
    rw [List.append_cons]
    exact ⟨_, _, _, _, _, ⟨_, rfl⟩, (h.tells.append (tells_end hnone)).append (tells_report _ r'), .failed _, rfl, rfl,
      fun h => by cases h⟩
  | advanceRaised x h hx =>
    exact ⟨_, _, _, _, _, ⟨_, rfl⟩, h.tells.append (tells_end rfl), .failed _, rfl, rfl, fun h => by cases h⟩
  | notifierRaised x hn h =>
    exact ⟨_, _, _, _, _, ⟨_, rfl⟩, h.tells.append (tells_notify _ _ _), .noticed _ _, rfl, rfl, fun _ => rfl⟩
  | sleeperRaised h => exact h.lastTells hn
  | refusedSleeper hm h => exact h.lastTells hn

/-! ## The cycle that is running -/

/-- The line that says why there is no retry tells of nothing more. -/
theorem tells_of_stopping {f : Failure} {reason : Reason} (hn : u.notifier.isSome)
    (h : At m u n (.stopping f reason : Stage κ) T) : ∃ fs ds ns k, Tells m T fs ds ns k ∧ Portion n fs ds ns k := by
  obtain ⟨q, fs, ds, ns, k, hlast⟩ := (h (.returned .none)).lastTells hn
  exact ⟨fs, ds, ns, k, hlast.tells.of_append (tells_report _ _), hlast.part⟩

/-- Where nothing is asked, there are as many delays and sleeps as notices. -/
theorem At.tells {stage : Stage κ} (hn : u.notifier.isSome) (h : At m u n stage T) :
    ∃ fs ds ns k, Tells m T fs ds ns k ∧ Portion n fs ds ns k ∧
      (stage.ask? n = none → ds.length = ns.length ∧ k = ns.length) := by
  cases stage with
  | calling =>
    obtain rfl : T = [] := h
    exact ⟨_, _, _, _, tells_nil, .opened, fun _ => ⟨rfl, rfl⟩⟩
  | attempting k hold =>
    obtain ⟨-, c, h⟩ := h
    exact ⟨_, _, _, _, h.tells, .opened, fun _ => ⟨rfl, rfl⟩⟩
  | judging f => exact ⟨_, _, _, _, h.2.tells, .failed _, fun ha => by cases ha⟩
  | advancing f => exact ⟨_, _, _, _, Accepted.tells h, .failed _, fun ha => by cases ha⟩
  | stopping f reason =>
    obtain ⟨fs, ds, ns, k, htells, hpart⟩ := tells_of_stopping hn h
    exact ⟨fs, ds, ns, k, htells, hpart, fun ha => by cases ha⟩
  | scheduling f d => exact ⟨_, _, _, _, Advanced.tells h, .drawn _ _, fun ha => by cases ha⟩
  | notifying f d => exact ⟨_, _, _, _, h.2.tells, .drawn _ _, fun ha => by cases ha⟩
  | sleeping d =>
    obtain ⟨f, h⟩ := h
    exact ⟨_, _, _, _, h.tells hn, .noticed _ _, fun ha => by cases ha⟩
  | dozing d k hold =>
    obtain ⟨-, c, h⟩ := h
    obtain ⟨f, htells⟩ := h.tells hn
    exact ⟨_, _, _, _, htells, .slept f d, fun _ => ⟨rfl, rfl⟩⟩

/-! ## The whole transcript -/

theorem Fits.numbered {l : Life κ} (hn : u.notifier.isSome) (h : Fits m u l T) :
    Numbered (Exchange.failures m T) (Exchange.delays T) (Exchange.notices T) := by
  have hnone : Numbered [] [] [] := fun i p hp => by cases hp
  cases l with
  | fresh =>
    obtain rfl : T = [] := h
    exact hnone
  | moved =>
    obtain rfl : T = [] := h
    exact hnone
  | running k stage =>
    obtain ⟨past, last, rfl, hb, hat⟩ := h
    obtain ⟨fs, ds, ns, htells, hpast⟩ := hb.tells hn
    obtain ⟨fs', ds', ns', k', htells', hpart, -⟩ := hat.tells hn
    have hall := htells.append htells'
    rw [hall.failures, hall.delays, hall.notices]
    exact hpast.numbered_append hpart
  | done k o =>
    obtain ⟨past, last, rfl, hb, hc⟩ := h
    obtain ⟨fs, ds, ns, htells, hpast⟩ := hb.tells hn
    obtain ⟨q, fs', ds', ns', k', hlast⟩ := hc.lastTells hn
    have hall := htells.append hlast.tells
    rw [hall.failures, hall.delays, hall.notices]
    exact hpast.numbered_append hlast.part

/-- A drive that is suspended has come to as many delays and sleeps as notices. -/
theorem Fits.suspended {k : Nat} {stage : Stage κ} (hn : u.notifier.isSome) (h : Fits m u (.running k stage) T)
    (ha : stage.ask? k = none) : (Exchange.delays T).length = (Exchange.notices T).length ∧
      Duty.sleep.times T = (Exchange.notices T).length := by
  obtain ⟨past, last, rfl, hb, hat⟩ := h
  obtain ⟨fs, ds, ns, htells, hpast⟩ := hb.tells hn
  obtain ⟨fs', ds', ns', k', htells', -, hcount⟩ := hat.tells hn
  obtain ⟨hdelays, hsleeps⟩ := hcount ha
  have hall := htells.append htells'
  have hd := hpast.delays
  have hns := hpast.notices
  rw [hall.delays, hall.notices, hall.sleeps, List.length_append, List.length_append]
  omega

/-- What a drive of `k` attempts has come to that an exchange ends. -/
structure EndedBy (k : Nat) (T : List (Exchange κ)) (q : Exchange κ) : Prop where
  delays : (Exchange.delays T).length = (Exchange.notices T).length
  notices : (Exchange.notices T).length + 1 = k + q.reach.1
  sleeps : Duty.sleep.times T + 1 = k + q.reach.2
  raised : q.duty? = some .notify → q.reply.isRaised

theorem Fits.last {k : Nat} {o : Outcome} (hn : u.notifier.isSome) (h : Fits m u (.done k o) T) :
    ∃ before q, T = before ++ [q] ∧ EndedBy k T q := by
  obtain ⟨past, last, rfl, hb, hc⟩ := h
  obtain ⟨fs, ds, ns, htells, hpast⟩ := hb.tells hn
  obtain ⟨q, fs', ds', ns', k', hlast⟩ := hc.lastTells hn
  obtain ⟨before, rfl⟩ := hlast.last
  have hall := htells.append hlast.tells
  have hd := hpast.delays
  have hns := hpast.notices
  have hdelays := hlast.delays
  obtain ⟨hnotices, hsleeps⟩ := Prod.ext_iff.mp hlast.reach
  refine ⟨past ++ before, q, (List.append_assoc ..).symm, ?_, ?_, ?_, hlast.raised⟩
  · rw [hall.delays, hall.notices, List.length_append, List.length_append]
    omega
  · rw [hall.notices, List.length_append, ← hnotices]
    omega
  · rw [hall.sleeps, ← hsleeps]
    dsimp only
    omega

end Language

/-! ## What a logger is handed -/

/-- The same method, which keeps what it is handed and what that comes to. -/
def Logger.Method.kept (level : String) (write : Logger.Method σ Unit) :
    Logger.Method (List (Notice × Except Fault Unit) × σ) Unit where
  title := write.title
  write event given s :=
    ((write event given s.2).1, s.1 ++ [(⟨level, event, given⟩, (write event given s.2).1)], (write event given s.2).2)

/-- The logger has been handed the record of each notice, by its number. -/
inductive Logged (n : Notifier) : List (Exchange κ) → List (Notice × Except Fault Unit) → Prop where
  | nil : Logged n [] []
  | other {T : List (Exchange κ)} {records : List (Notice × Except Fault Unit)} {q : Exchange κ}
      (h : Logged n T records) (hq : q.notice? = none) : Logged n (T ++ [q]) records
  | notice {T : List (Exchange κ)} {records : List (Notice × Except Fault Unit)} {error : Value} {text : String}
      (h : Logged n T records) (phase : Phase) (attempts : Nat) (ht : error.text = .ok text) (delay : Value)
      (r : Except Fault Unit) :
      Logged n (T ++ [⟨phase, attempts, .notify error delay, .of (r.map fun _ => .none)⟩])
        (records ++ [(⟨n.level, n.event, n.entries (records.length + 1) error delay text⟩, r)])

namespace Logged

variable {n : Notifier} {T : List (Exchange κ)} {records : List (Notice × Except Fault Unit)}

theorem length (h : Logged n T records) : records.length = (Exchange.notices T).length := by
  induction h with
  | nil => rfl
  | other h hq ih => simp [Exchange.notices, hq, ih]
  | notice h phase attempts ht delay r ih => simp [Exchange.notices, Exchange.notice?, ih]

/-- Each record is that of the notice of its number. -/
theorem record (h : Logged n T records) {i : Nat} {p : Notice × Except Fault Unit} (hp : records[i]? = some p) :
    ∃ q ∈ T, ∃ error delay text, (Exchange.notices T)[i]? = some (q.attempts, error, delay) ∧
      q.ask = .notify error delay ∧ q.reply = .of (p.2.map fun _ => .none) ∧ error.text = .ok text ∧
      p.1 = ⟨n.level, n.event, n.entries (i + 1) error delay text⟩ := by
  induction h with
  | nil => cases hp
  | @other T records q h hq ih =>
    obtain ⟨q', hq', error, delay, text, hi, hrest⟩ := ih hp
    refine ⟨q', List.mem_append_left _ hq', error, delay, text, ?_, hrest⟩
    simpa [Exchange.notices, hq] using hi
  | @notice T records error text h phase attempts ht delay r ih =>
    have hnotices : Exchange.notices (T ++ [⟨phase, attempts, .notify error delay, .of (r.map fun _ => .none)⟩]) =
        Exchange.notices T ++ [(attempts, error, delay)] := by simp [Exchange.notices, Exchange.notice?]
    rw [hnotices]
    by_cases hi : i < records.length
    · rw [List.getElem?_append_left hi] at hp
      obtain ⟨q', hq', error, delay, text, hplace, hrest⟩ := ih hp
      refine ⟨q', List.mem_append_left _ hq', error, delay, text, ?_, hrest⟩
      rw [List.getElem?_append_left (h.length ▸ hi)]
      exact hplace
    · rw [List.getElem?_append_right (Nat.not_lt.mp hi), List.getElem?_singleton] at hp
      split at hp
      · next hlast =>
        cases hp
        obtain rfl : i = records.length := by omega
        refine ⟨_, List.mem_append_right _ (List.mem_singleton.mpr rfl), error, delay, text, ?_, rfl, rfl, ht, rfl⟩
        rw [h.length, List.getElem?_concat_length]
      · cases hp

end Logged

namespace Engine

/-! ## What every reply preserves -/

section Preserves

variable {w : World ι κ σ} {P : σ → Prop} (hw : ∀ e a s, P s → P (w e a s).2)
include hw

end Preserves

/-- Every failure that the notifier is told of has a text. -/
def Worded (T : List (Exchange κ)) : Prop :=
  ∀ q ∈ T, ∀ error delay, q.ask = .notify error delay → ∃ text, error.text = .ok text

/-- A notifier has counted the notices, and has handed over a record for each. -/
structure Counts (n : Notifier) (T : List (Exchange κ)) (n' : Notifier) (records : List (Notice × Except Fault Unit)) :
    Prop where
  count : n' = { n with retries := (Exchange.notices T).length }
  logged : Worded T → Logged n T records

section Counting

variable {n n' : Notifier} {T : List (Exchange κ)} {records : List (Notice × Except Fault Unit)}

theorem Counts.other (h : Counts n T n' records) {q : Exchange κ} (hq : q.notice? = none) :
    Counts n (T ++ [q]) n' records where
  count := by
    have hnotices : Exchange.notices (T ++ [q]) = Exchange.notices T := by simp [Exchange.notices, hq]
    rw [hnotices]
    exact h.count
  logged hworded := (h.logged fun q' hq' => hworded q' (List.mem_append_left _ hq')).other hq

/-- A notice is counted, and its record handed over if there is a text. -/
theorem Counts.notice (h : Counts n T n' records) (hc : n.IsClear) (write : Logger.Method σ Unit) (phase : Phase)
    (attempts : Nat) (error delay : Value) (z : σ) :
    Counts n (T ++ [⟨phase, attempts, .notify error delay,
        .of ((n'.notify (.ok (write.kept n'.level)) error delay (records, z)).1.1.map fun _ => .none)⟩])
      (n'.notify (.ok (write.kept n'.level)) error delay (records, z)).2
      (n'.notify (.ok (write.kept n'.level)) error delay (records, z)).1.2.1 where
  count := by simp [Notifier.notify, h.count, Exchange.notices, Exchange.notice?]
  logged hworded := by
    obtain ⟨text, ht⟩ := hworded _ (List.mem_append_right _ (List.mem_singleton.mpr rfl)) error delay rfl
    have hlogged := h.logged fun q hq => hworded q (List.mem_append_left _ hq)
    have hclear : n'.IsClear := by
      rw [h.count]
      exact hc
    have hrecord : n'.record (.ok (write.kept n'.level)) (n'.retries + 1) error delay (records, z) =
        write.kept n.level n.event (n.entries (records.length + 1) error delay text) (records, z) := by
      rw [n'.record_of_text hclear _ _ ht, hlogged.length]
      simp only [h.count, Notifier.entries]
    rw [Notifier.notify, hrecord]
    exact hlogged.notice phase attempts ht delay _

end Counting

end Engine

end Reattempt
