import Reattempt.Backoff.Policy

/-!
# Builders

A builder makes one cursor after another, each afresh. The one for rehearsals knows which it has made. Cursors
are kept side by side, and each has its place.
-/
namespace Reattempt.Backoff

inductive Builder where
  | policy (p : Policy)
  | scripted (delays : Value) (built : List Nat)
  | items (is : List Item)
  deriving Inhabited

/-- A builder with the cursors that there are. -/
structure Stock where
  builder : Builder
  cursors : List Cursor
  deriving Inhabited

namespace Builder

/-- A cursor that is to have a place. -/
def build (place : Nat) : Builder → Except Fault Cursor × Builder
  | .policy p => (p.build, .policy p)
  | .scripted delays built =>
    match delays.members with
    | .ok ds => (.ok (.scripted ⟨ds, 0⟩), .scripted delays (built ++ [place]))
    | .error f => (.error f, .scripted delays built)
  | .items is => (.ok (.items is), .items is)

/-- The cursor that a builder makes. -/
def fresh (b : Builder) : Except Fault Cursor := (b.build 0).1

theorem build_eq_fresh (place : Nat) (b : Builder) : (b.build place).1 = b.fresh := by
  cases b with
  | scripted delays built => simp only [fresh, build]; cases delays.members <;> rfl
  | _ => rfl

/-- What has been built makes no difference to what is built next. -/
theorem fresh_build (place : Nat) (b : Builder) : (b.build place).2.fresh = b.fresh := by
  cases b with
  | scripted delays built =>
    cases hd : delays.members <;> simp only [fresh, build, hd]
  | _ => rfl

end Builder

/-- The cursor in a place is advanced; where there is none, there are no delays. -/
def draw (cs : List Cursor) (i : Nat) : Except Fault (Option Value) × List Cursor :=
  match cs[i]? with
  | none => (.ok none, cs)
  | some c => (c.advance.1, cs.set i c.advance.2)

namespace Stock

/-- Makes a cursor and tells its place. -/
def build (s : Stock) : Except Fault Nat × Stock :=
  match s.builder.build s.cursors.length with
  | (.ok c, builder) => (.ok s.cursors.length, ⟨builder, s.cursors ++ [c]⟩)
  | (.error f, builder) => (.error f, ⟨builder, s.cursors⟩)

end Stock

end Reattempt.Backoff
