import Reattempt.Proofs.Conversion
import Reattempt.Proofs.Limits
import Reattempt.Rehearsal.Session

/-!
# Chains of alterations

A policy is altered one parameter at a time, by a method that is named after the parameter, and all its parameters
are checked each time. So a chain of alterations goes on while what has been written last of each parameter is within
the limits, and stops at the first alteration after which it is not. A cap has to be at least the first delay, so the
order of the alterations matters. Altering a policy makes another one, and leaves all that there are as they are.
-/
namespace Reattempt

open Backoff

/-- A number that can be converted is short enough to be written. -/
theorem Number.isOverlong_of_convertible {n : Number} (h : n.convertible) : n.isOverlong = false := by
  cases n with
  | whole i =>
    have hlimit : i.natAbs < Binary64.wholeLimit := (convertible_iff _).mp h i rfl
    have hlength : (Nat.toDigits 10 i.natAbs).length ≤ 309 :=
      Nat.toDigits_length 10 _ 309 (by decide) (hlimit.trans (by decide +kernel))
    have hshort : ¬ Text.maxDigits < (Nat.toDigits 10 i.natAbs).length :=
      Nat.not_lt.mpr (hlength.trans (by decide))
    simpa [isOverlong] using hshort
  | _ => rfl

namespace Backoff.Policy

/-- A parameter is set, or removed. -/
inductive Alteration where
  | set (field : String) (v : Option Number)
  | unset (field : String)
  deriving DecidableEq, Repr

namespace Alteration

def field : Alteration → String
  | .set field _ => field
  | .unset field => field

/-- What is written. -/
def value : Alteration → Value
  | .set _ v => optionalNumber v
  | .unset _ => .none

def method : Alteration → String
  | .set field _ => "with_" ++ field
  | .unset field => "without_" ++ field

def args : Alteration → List Value
  | .set _ v => [optionalNumber v]
  | .unset _ => []

/-- There is such a method for policies of the strategy, and its argument is a number that can be converted. A budget
is a whole number, which from zero on may be of any size, and what can be removed can be set to none. -/
def Fits (k : Strategy) : Alteration → Prop
  | .set field v => field ∈ k.parameters.map (·.1) ∧ (v = none → removable field) ∧
      ∀ n ∈ v, if field = "max_times" then n.int?.isSome ∧ (n < 0 → n.convertible) else n.convertible
  | .unset field => field ∈ k.parameters.map (·.1) ∧ removable field

end Alteration

/-- Each alteration is of the policy that the one before has made. -/
def chain (p : Policy) (cs : List Alteration) : Except Fault Policy :=
  cs.foldlM (fun p c => p.change c.method c.args) p

theorem chain_cons (p : Policy) (c : Alteration) (cs : List Alteration) :
    p.chain (c :: cs) = p.change c.method c.args >>= fun q => q.chain cs := rfl

/-! ## What is written last -/

/-- The value that is written last under a name. -/
def lastly (cs : List Alteration) (name : String) (old : Value) : Value :=
  cs.foldl (fun v c => if name = c.field then c.value else v) old

/-- The parameters of a policy, each with what is written last. -/
def latest (p : Policy) (cs : List Alteration) : List (String × Value) :=
  p.fields.map fun e => (e.1, lastly cs e.1 e.2)

theorem fields_constant (p : Constant) :
    (Policy.constant p).fields = [("delay", .num p.delay), ("max_times", optionalNumber p.budget)] := rfl

theorem fields_exponential (p : Exponential) : (Policy.exponential p).fields = [("min_delay", .num p.least),
    ("max_delay", optionalNumber p.cap), ("factor", .num p.factor), ("max_times", optionalNumber p.budget)] := rfl

theorem fields_fibonacci (p : Fibonacci) : (Policy.fibonacci p).fields = [("min_delay", .num p.least),
    ("max_delay", optionalNumber p.cap), ("max_times", optionalNumber p.budget)] := rfl

@[simp] theorem names_fields (p : Policy) : p.fields.map (·.1) = p.strategy.parameters.map (·.1) := by
  cases p <;> rfl

@[simp] theorem values_fields (p : Policy) : p.fields.map (·.2) = p.values := by
  cases p <;> rfl

@[simp] theorem latest_nil (p : Policy) : p.latest [] = p.fields := by
  simp [latest, lastly]

@[simp] theorem names_latest (p : Policy) (cs : List Alteration) :
    (p.latest cs).map (·.1) = p.strategy.parameters.map (·.1) := by
  rw [← names_fields, latest, List.map_map]
  rfl

/-- What an alteration has written may be written again. -/
theorem latest_cons {p q : Policy} {c : Alteration} (h : q.fields = p.latest [c]) (cs : List Alteration) :
    q.latest cs = p.latest (c :: cs) := by
  rw [latest, h, latest, List.map_map]
  rfl

/-! ## One alteration -/

/-- A method that sets a parameter replaces it. -/
theorem change_set (p : Policy) (v : Value) :
    ∀ field ∈ p.strategy.parameters.map (·.1), p.change ("with_" ++ field) [v] = p.replace field v := by
  cases p with
  | constant p =>
    simp only [strategy, Strategy.parameters, List.map, List.forall_mem_cons]
    exact ⟨rfl, rfl, nofun⟩
  | exponential p =>
    simp only [strategy, Strategy.parameters, List.map, List.forall_mem_cons]
    exact ⟨rfl, rfl, rfl, rfl, nofun⟩
  | fibonacci p =>
    simp only [strategy, Strategy.parameters, List.map, List.forall_mem_cons]
    exact ⟨rfl, rfl, rfl, nofun⟩

/-- A method that removes a parameter replaces it by none. -/
theorem change_unset (p : Policy) : ∀ field ∈ p.strategy.parameters.map (·.1), removable field →
    p.change ("without_" ++ field) [] = p.replace field .none := by
  cases p with
  | constant p =>
    simp only [strategy, Strategy.parameters, List.map, List.forall_mem_cons]
    exact ⟨nofun, fun _ => rfl, nofun⟩
  | exponential p =>
    simp only [strategy, Strategy.parameters, List.map, List.forall_mem_cons]
    exact ⟨nofun, fun _ => rfl, nofun, fun _ => rfl, nofun⟩
  | fibonacci p =>
    simp only [strategy, Strategy.parameters, List.map, List.forall_mem_cons]
    exact ⟨nofun, fun _ => rfl, fun _ => rfl, nofun⟩

/-- Whether there is a policy of the strategy with these parameters that is within its limits. -/
def Within (k : Strategy) (es : List (String × Value)) : Prop :=
  ∃ q : Policy, q.strategy = k ∧ q.fields = es ∧ q.Proper

section Alter

variable {k : Strategy} {p q : Policy} {c : Alteration} {es : List (String × Value)}

theorem change_eq (h : c.Fits p.strategy) :
    p.change c.method c.args = ofValues p.strategy ((p.latest [c]).map (·.2)) := by
  have hreplace : p.replace c.field c.value = ofValues p.strategy ((p.latest [c]).map (·.2)) := by
    rw [latest, List.map_map]
    rfl
  rw [← hreplace]
  cases c with
  | set field v => exact change_set p _ field h.1
  | unset field => exact change_unset p field h.1 h.2

/-- A policy has the parameters that it is made of. -/
theorem fields_of_ofValues (hnames : es.map (·.1) = k.parameters.map (·.1))
    (h : ofValues k (es.map (·.2)) = .ok q) : q.fields = es := by
  obtain ⟨rfl, hvalues, -⟩ := ofValues_eq_ok.mp h
  rw [fields, ← hnames, hvalues, List.zip_map', List.map_id']

/-- Parameters that are refused are not within the limits. -/
theorem not_within_of_ofValues {x : Fault} (h : ofValues k (es.map (·.2)) = .error x) : ¬ Within k es := by
  rintro ⟨q, rfl, rfl, hproper⟩
  rw [values_fields, ofValues_of_proper hproper] at h
  cases h

end Alter

/-! ## What is refused -/

/-- Numbers in range for a parameter: a cap or a budget may be none, and all can be converted but a budget from
zero on. -/
def InRange (name : String) (v : Value) : Prop :=
  ∃ n? : Option Number, v = optionalNumber n? ∧ (n? = none → removable name) ∧
    ∀ n ∈ n?, (name = "max_times" → n < 0) → n.convertible

namespace InRange

variable {name : String} {v : Value}

theorem of_convertible {n : Number} (h : n.convertible) : InRange name (.num n) :=
  ⟨some n, rfl, nofun, fun m hm _ => by cases hm; exact h⟩

theorem of_isCap {least : Number} {cap : Option Number} (h : IsCap least cap) :
    InRange "max_delay" (optionalNumber cap) :=
  ⟨cap, rfl, fun _ => rfl, fun n hn _ => Number.convertible_of_isFinite (h n hn).1.1⟩

theorem of_isBudget {b : Option Number} (h : IsBudget b) : InRange "max_times" (optionalNumber b) :=
  ⟨b, rfl, fun _ => rfl, fun _ hn hneg => absurd (hneg rfl) (h.not_lt hn)⟩

theorem measurable (h : InRange name v) (hname : removable name = false) : ∃ n, v.measurable = .ok n := by
  obtain ⟨n?, rfl, hnone, hconv⟩ := h
  cases n? with
  | none => cases hname.symm.trans (hnone rfl)
  | some n =>
    have htimes : name ≠ "max_times" := by
      rintro rfl
      cases hname
    exact ⟨n, Value.measurable_eq_ok.mpr ⟨rfl, hconv n rfl fun h => absurd h htimes⟩⟩

theorem refuses_delay (h : InRange name v) (hname : removable name = false) :
    FailsBy Fault.Refuses (checkDelay name v) := by
  obtain ⟨n, hn⟩ := h.measurable hname
  exact refuses_checkDelay hn

theorem refuses_factor (h : InRange name v) (hname : removable name = false) :
    FailsBy Fault.Refuses (checkFactor v) := by
  obtain ⟨n, hn⟩ := h.measurable hname
  exact refuses_checkFactor hn

theorem refuses_cap (h : InRange "max_delay" v) (least : Number) : FailsBy Fault.Refuses (checkCap least v) := by
  obtain ⟨n?, rfl, -, hconv⟩ := h
  cases n? with
  | none => exact .ok none
  | some n =>
    exact refuses_checkCap least (Value.measurable_eq_ok.mpr ⟨rfl, hconv n rfl fun h => absurd h (by decide)⟩)

theorem refuses_budget (h : InRange "max_times" v) : FailsBy Fault.Refuses (checkBudget v) := by
  obtain ⟨n?, rfl, -, hconv⟩ := h
  cases n? with
  | none => exact .ok none
  | some n => exact refuses_checkBudget fun hneg => Number.isOverlong_of_convertible (hconv n rfl fun _ => hneg)

end InRange

/-- The parameters of a policy within its limits are in range. -/
theorem inRange_fields {p : Policy} (h : p.Proper) : ∀ e ∈ p.fields, InRange e.1 e.2 := by
  cases p with
  | constant p =>
    have hdelay := Number.convertible_of_isFinite h.1.1
    simp only [fields_constant, List.forall_mem_cons]
    exact ⟨.of_convertible hdelay, .of_isBudget h.2, nofun⟩
  | exponential p =>
    obtain ⟨hdelay, hcap, hfactor, hbudget⟩ := h
    simp only [fields_exponential, List.forall_mem_cons]
    exact ⟨.of_convertible (Number.convertible_of_isFinite hdelay.1), .of_isCap hcap,
      .of_convertible (Number.convertible_of_isFinite hfactor.1), .of_isBudget hbudget, nofun⟩
  | fibonacci p =>
    obtain ⟨hdelay, hcap, hbudget⟩ := h
    simp only [fields_fibonacci, List.forall_mem_cons]
    exact ⟨.of_convertible (Number.convertible_of_isFinite hdelay.1), .of_isCap hcap, .of_isBudget hbudget, nofun⟩

/-- All that can be wrong with numbers in range is the value of one of them. -/
theorem refuses_ofValues (p : Policy) (w : String × Value → Value) (h : ∀ e ∈ p.fields, InRange e.1 (w e)) :
    FailsBy Fault.Refuses (ofValues p.strategy (p.fields.map w)) := by
  cases p with
  | constant p =>
    simp only [fields_constant, List.forall_mem_cons] at h
    obtain ⟨hd, hb, -⟩ := h
    exact .map (.bind (hd.refuses_delay rfl) fun _ _ => .bind hb.refuses_budget fun _ _ => .ok _) _
  | exponential p =>
    simp only [fields_exponential, List.forall_mem_cons] at h
    obtain ⟨hd, hc, hf, hb, -⟩ := h
    refine .map (.bind (hd.refuses_delay rfl) fun d _ => .bind (hc.refuses_cap d) fun _ _ => ?_) _
    exact .bind hb.refuses_budget fun _ _ => .bind (hf.refuses_factor rfl) fun _ _ => .ok _
  | fibonacci p =>
    simp only [fields_fibonacci, List.forall_mem_cons] at h
    obtain ⟨hd, hc, hb, -⟩ := h
    refine .map (.bind (hd.refuses_delay rfl) fun d _ => .bind (hc.refuses_cap d) fun _ _ => ?_) _
    exact .bind hb.refuses_budget fun _ _ => .ok _

theorem Alteration.Fits.inRange {k : Strategy} {c : Alteration} (h : c.Fits k) : InRange c.field c.value := by
  cases c with
  | set field v =>
    obtain ⟨-, hnone, hconv⟩ := h
    refine ⟨v, rfl, hnone, fun n hn (hneg : field = "max_times" → n < 0) => ?_⟩
    have hrange := hconv n hn
    split at hrange
    · next hname => exact hrange.2 (hneg hname)
    · exact hrange
  | unset field => exact ⟨none, rfl, fun _ => h.2, nofun⟩

/-- An alteration makes the policy with what is written, unless that leaves the limits: then it is refused. -/
theorem change_cases {p : Policy} {c : Alteration} (hp : p.Proper) (hc : c.Fits p.strategy) :
    (∃ q, p.change c.method c.args = .ok q ∧ q.strategy = p.strategy ∧ q.fields = p.latest [c] ∧ q.Proper) ∨
      ∃ x, p.change c.method c.args = .error x ∧ x.Refuses ∧ ¬ Within p.strategy (p.latest [c]) := by
  rw [change_eq hc]
  cases hmade : ofValues p.strategy ((p.latest [c]).map (·.2)) with
  | ok q =>
    obtain ⟨hk, -, hproper⟩ := ofValues_eq_ok.mp hmade
    exact .inl ⟨q, rfl, hk, fields_of_ofValues (names_latest p [c]) hmade, hproper⟩
  | error x =>
    have hrange : ∀ e ∈ p.fields, InRange e.1 (lastly [c] e.1 e.2) := by
      intro e he
      by_cases hname : e.1 = c.field
      · simpa [lastly, hname] using hc.inRange
      · simpa [lastly, hname] using inRange_fields hp e he
    have hrefuses := refuses_ofValues p (fun e => lastly [c] e.1 e.2) hrange
    have hvalues : (p.latest [c]).map (·.2) = p.fields.map fun e => lastly [c] e.1 e.2 := by
      rw [latest, List.map_map]
      rfl
    exact .inr ⟨x, rfl, hrefuses x (hvalues ▸ hmade), not_within_of_ofValues hmade⟩

/-! ## Chains -/

/-- The chain has made a policy of what has been written last, and has been within the limits all the way. -/
def Through (p : Policy) (cs : List Alteration) (q : Policy) : Prop :=
  (∀ ds, ds <+: cs → Within p.strategy (p.latest ds)) ∧
    ofValues p.strategy ((p.latest cs).map (·.2)) = .ok q ∧ q.Proper

/-- The chain has stopped at the first alteration after which it would have been outside the limits. -/
def StopsAt (p : Policy) (cs : List Alteration) (x : Fault) : Prop :=
  x.Refuses ∧ ∃ ds c es q, cs = ds ++ c :: es ∧ (∀ ds', ds' <+: ds → Within p.strategy (p.latest ds')) ∧
    ¬ Within p.strategy (p.latest (ds ++ [c])) ∧ p.chain ds = .ok q ∧ q.change c.method c.args = .error x

section Rest

variable {p q r : Policy} {c : Alteration} {cs ds : List Alteration} {x : Fault}

theorem within_nil (hp : p.Proper) : Within p.strategy (p.latest []) := ⟨p, rfl, (latest_nil p).symm, hp⟩

/-- What is written by the rest comes after what the first has written. -/
theorem within_cons (hp : p.Proper) (hk : q.strategy = p.strategy) (hfields : q.fields = p.latest [c])
    (h : ∀ es, es <+: ds → Within q.strategy (q.latest es)) :
    ∀ es, es <+: c :: ds → Within p.strategy (p.latest es) := by
  intro es hes
  cases es with
  | nil => exact within_nil hp
  | cons c' es =>
    obtain ⟨rfl, hrest⟩ := List.cons_prefix_cons.mp hes
    rw [← hk, ← latest_cons hfields]
    exact h es hrest

theorem Through.nil (hp : p.Proper) : p.Through [] p := by
  refine ⟨fun es hes => ?_, ?_, hp⟩
  · rw [List.prefix_nil.mp hes]
    exact within_nil hp
  · rw [latest_nil, values_fields]
    exact ofValues_of_proper hp

theorem Through.cons (hp : p.Proper) (hk : q.strategy = p.strategy) (hfields : q.fields = p.latest [c])
    (h : q.Through cs r) : p.Through (c :: cs) r := by
  obtain ⟨hwithin, hlast, hproper⟩ := h
  refine ⟨within_cons hp hk hfields hwithin, ?_, hproper⟩
  rw [← hk, ← latest_cons hfields]
  exact hlast

/-- The first alteration is refused. -/
theorem StopsAt.here (hp : p.Proper) (hx : p.change c.method c.args = .error x) (hrefuses : x.Refuses)
    (hout : ¬ Within p.strategy (p.latest [c])) : p.StopsAt (c :: cs) x := by
  refine ⟨hrefuses, [], c, cs, p, rfl, fun es hes => ?_, hout, rfl, hx⟩
  rw [List.prefix_nil.mp hes]
  exact within_nil hp

theorem StopsAt.cons (hp : p.Proper) (hq : p.change c.method c.args = .ok q) (hk : q.strategy = p.strategy)
    (hfields : q.fields = p.latest [c]) (h : q.StopsAt cs x) : p.StopsAt (c :: cs) x := by
  obtain ⟨hrefuses, ds, c', es, r, rfl, hwithin, hout, hr, hx⟩ := h
  refine ⟨hrefuses, c :: ds, c', es, r, rfl, within_cons hp hk hfields hwithin, ?_, ?_, hx⟩
  · rw [← hk, List.cons_append, ← latest_cons hfields]
    exact hout
  · rw [chain_cons, hq]
    exact hr

theorem chain_cases (hp : p.Proper) (hcs : ∀ c ∈ cs, c.Fits p.strategy) :
    (∃ q, p.chain cs = .ok q ∧ p.Through cs q) ∨ ∃ x, p.chain cs = .error x ∧ p.StopsAt cs x := by
  induction cs generalizing p with
  | nil => exact .inl ⟨p, rfl, .nil hp⟩
  | cons c cs ih =>
    rw [chain_cons]
    rcases change_cases hp (hcs c List.mem_cons_self) with ⟨q, hq, hk, hfields, hproper⟩ | ⟨x, hx, hrefuses, hout⟩
    · have hrest : ∀ c' ∈ cs, c'.Fits q.strategy := fun c' hc' => hk ▸ hcs c' (List.mem_cons_of_mem c hc')
      rw [hq]
      rcases ih hproper hrest with ⟨r, hr, hthrough⟩ | ⟨x, hx, hstops⟩
      · exact .inl ⟨r, hr, hthrough.cons hp hk hfields⟩
      · exact .inr ⟨x, hx, hstops.cons hp hq hk hfields⟩
    · rw [hx]
      exact .inr ⟨x, rfl, .here hp hx hrefuses hout⟩

end Rest

end Backoff.Policy

/-! ## Policies that are there already -/

namespace Rehearsal

/-- All builders that are there stay as they are. -/
def KeepsBuilders {α : Type} (a : Act α) : Prop :=
  ∀ s : Session, s.bench.builders <+: (a.run.run s).2.bench.builders

namespace KeepsBuilders

variable {α β : Type}

theorem pure (x : α) : KeepsBuilders (Pure.pure x : Act α) := fun _ => List.prefix_refl _

theorem stop (f : Fault) : KeepsBuilders (Act.stop f : Act α) := fun _ => List.prefix_refl _

theorem noSlot (name : String) : KeepsBuilders (Act.noSlot name : Act α) := fun _ => List.prefix_refl _

theorem ofExcept (r : Except Fault α) : KeepsBuilders (Act.ofExcept r) := by
  cases r with
  | ok a => exact pure a
  | error f => exact stop f

theorem bind {a : Act α} {f : α → Act β} (ha : KeepsBuilders a) (hf : ∀ x, KeepsBuilders (f x)) :
    KeepsBuilders (a >>= f) := by
  intro s
  have hbind : (a >>= f).run.run s = match a.run.run s with
      | (.ok x, s') => (f x).run.run s'
      | (.error e, s') => (.error e, s') := by
    show StateT.bind a (ExceptT.bindCont f) s = _
    unfold StateT.bind
    dsimp only [Bind.bind]
    rcases hr : a s with ⟨x | x, s'⟩
    all_goals simp only [ExceptT.run, StateT.run, hr]
    all_goals rfl
  have h := ha s
  rw [hbind]
  rcases hr : a.run.run s with ⟨x | x, s'⟩
  · rw [hr] at h
    exact h
  · rw [hr] at h
    exact h.trans (hf x s')

theorem get : KeepsBuilders (MonadState.get : Act Session) := fun _ => List.prefix_refl _

theorem fill (name : String) (slot : Slot) : KeepsBuilders (Act.fill name slot) := fun _ => List.prefix_refl _

theorem addBuilder (b : Builder) : KeepsBuilders (Act.addBuilder b) := fun _ => List.prefix_append _ _

theorem slot (name : String) : KeepsBuilders (Act.slot name) := by
  refine .bind .get fun s => ?_
  split
  · exact .pure _
  · exact .noSlot name

theorem builderAt (name : String) : KeepsBuilders (Act.builderAt name) := by
  refine .bind (.slot name) fun s => ?_
  split
  · refine .bind (.bind .get fun s => .pure _) fun b => ?_
    split
    · exact .pure _
    · exact .noSlot name
  · exact .noSlot name

/-- A policy that is altered is made anew. -/
theorem change (into name method : String) (args : List Value) :
    KeepsBuilders (Act.perform (.change into name method args)) := by
  refine .bind (.builderAt name) fun b => ?_
  split
  · refine .bind (.ofExcept _) fun p => .bind (.addBuilder _) fun i => .bind (.fill into _) fun _ => .pure _
  · exact .stop _

end KeepsBuilders

end Rehearsal

namespace Backoff.Policy

open Rehearsal

/-- A chain of alterations stops, with a complaint about a value, at the first one after which the parameters would not
be within the limits. If there is none, it makes the policy of what has been written last. The policy that settings
describe is within its limits too, whatever has been assigned to them. No method changes what it is called on, or any
other builder. -/
theorem chain_stops_at_limits {p : Policy} (h : p.Obtained) {cs : List Alteration}
    (hcs : ∀ c ∈ cs, c.Fits p.strategy) :
    (match p.chain cs with
      | .ok q => p.Through cs q
      | .error x => p.StopsAt cs x) ∧
    (∀ (s : Settings) (ws : List (String × Value)) (q : Policy),
      (ws.foldl (fun s w => s.assign w.1 w.2) s).toPolicy = .ok q → q.Proper) ∧
    ∀ (s : Session) (into name method : String) (args : List Value),
      s.bench.builders <+: (s.perform (.change into name method args)).2.bench.builders := by
  refine ⟨?_, fun s ws q hq => Settings.proper_of_toPolicy hq, fun s into name method args => ?_⟩
  · rcases chain_cases h.proper hcs with ⟨q, hq, hthrough⟩ | ⟨x, hx, hstops⟩
    · rw [hq]
      exact hthrough
    · rw [hx]
      exact hstops
  · exact KeepsBuilders.change into name method args { s with bench := { s.bench with
      events := [], phased := ((Step.change into name method args).subject?.bind s.engineIn).isSome } }

/-- The cap has to be raised before the first delay is. -/
theorem order_of_alterations_matters : ∃ p : Policy, p.Obtained ∧
    (∃ x, p.StopsAt [.set "min_delay" (some 100), .set "max_delay" (some 200)] x) ∧
    ∃ q, p.Through [.set "max_delay" (some 200), .set "min_delay" (some 100)] q := by
  obtain ⟨p, hp, hk, hstops, hpasses⟩ : ∃ p : Policy, p.Obtained ∧ p.strategy = .exponential ∧
      (p.chain [.set "min_delay" (some 100), .set "max_delay" (some 200)]).toOption = none ∧
      (p.chain [.set "max_delay" (some 200), .set "min_delay" (some 100)]).toOption.isSome := by
    have hmade : make .exponential [] = .ok Policy.default := Fault.eq_ok_of_toOption (by decide +kernel)
    exact ⟨Policy.default, .made hmade, rfl, by decide +kernel, by decide +kernel⟩
  have hfirst : (Alteration.set "min_delay" (some 100)).Fits p.strategy := by
    rw [hk]
    exact ⟨by decide, nofun, by rintro n ⟨⟩; decide +kernel⟩
  have hcap : (Alteration.set "max_delay" (some 200)).Fits p.strategy := by
    rw [hk]
    exact ⟨by decide, nofun, by rintro n ⟨⟩; decide +kernel⟩
  refine ⟨p, hp, ?_, ?_⟩
  · have hchain := (chain_stops_at_limits hp
      (List.forall_mem_cons.mpr ⟨hfirst, List.forall_mem_singleton.mpr hcap⟩)).1
    split at hchain
    · next q hq =>
      rw [hq] at hstops
      cases hstops
    · next x _ => exact ⟨x, hchain⟩
  · have hchain := (chain_stops_at_limits hp
      (List.forall_mem_cons.mpr ⟨hcap, List.forall_mem_singleton.mpr hfirst⟩)).1
    split at hchain
    · next q _ => exact ⟨q, hchain⟩
    · next x hx =>
      rw [hx] at hpasses
      cases hpasses

/-- A not-a-number that is assigned to settings as their budget is the budget of their policy, and not zero or above. -/
theorem nan_budget_is_not_refused : ∃ s p, Settings.make [] = .ok s ∧
    (s.assign "max_times" (.real .nan)).toPolicy = .ok p ∧
      ("max_times", Value.real .nan) ∈ p.fields ∧ ¬ 0 ≤ Number.real .nan := by
  have hboth : (Settings.make [] >>= fun s => (s.assign "max_times" (.real .nan)).toPolicy) =
      .ok (.exponential ⟨.real (.ofInt 1), some (.real (.ofInt 60)), .real (.ofInt 2), some (.real .nan)⟩) :=
    Fault.eq_ok_of_toOption (by decide +kernel)
  obtain ⟨s, hs, hp⟩ := Fault.bind_eq_ok hboth
  refine ⟨s, _, hs, hp, ?_, nofun⟩
  simp [fields_exponential, optionalNumber, Value.real]

end Backoff.Policy

end Reattempt
