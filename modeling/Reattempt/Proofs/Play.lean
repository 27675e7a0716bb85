import Reattempt.Proofs.Round

/-!
# Whole drives

A play is the whole drive of a fresh engine with a cast. It is the rounds of the cast one after
another: a play ends as the first round that does not lead to another attempt, and what a longer
play does begins with what a shorter one has done.
-/
namespace Reattempt.Cast

open Engine

variable {ι σ : Type} (c : Cast ι σ) (d : Staging) (u : Setup ι)

/-- A blocking engine is called, a cooperative one awaited. Each step may take `fuel` replies, and
the coroutine may be stepped `m` times more after the first step. -/
def play (fuel m : Nat) (s : σ) : Turn ι Pause σ :=
  match d with
  | .blocking => call (c.world .blocking) fuel (make .blocking u) s
  | .cooperative operation sleeper =>
    await (c.world (.cooperative operation sleeper)) fuel (m + 1) .unstarted (make .cooperative u) s

/-- The engine at the start of an attempt. -/
def calling (n : Nat) : Engine ι Pause := ⟨d.mode, u, .running n .calling⟩

/-- A play comes to a place of the walk, and to any place of it if it is long enough. -/
theorem play_eq_stand (fuel m : Nat) (s : σ) (far : Nat) :
    ∃ n, c.play d u fuel m s = stand (walk (c.world d) n (calling d u 1, s)) ∧
      (far ≤ fuel → far ≤ m → far ≤ n) := by
  cases d with
  | blocking =>
    have hp : (calling .blocking u 1).IsPlain := by
      intro n stage hl
      cases hl
      trivial
    refine ⟨fuel, ?_, fun h _ => h⟩
    rw [← drive_eq_walk_of_blocking _ fuel s rfl hp]
    rfl
  | cooperative operation sleeper =>
    have hc : (calling (.cooperative operation sleeper) u 1).IsCalm := ⟨1, .calling, rfl, trivial⟩
    obtain ⟨n, hn, hfar⟩ := await_eq_stand (c.world (.cooperative operation sleeper)) fuel (m + 1) s hc far
    exact ⟨n, hn, fun hf hm => hfar hf (by omega)⟩

/-! ## Rounds one after another -/

/-- The `n`-th attempt begins at `t`. -/
inductive Begins (s : σ) : Nat → σ → Prop where
  | first : Begins s 1 s
  | next {n : Nat} {t z : σ} (h : Begins s n t) (hr : c.round u n d t = (.ok (), z)) : Begins s (n + 1) z

/-- The `n`-th attempt is the last, and the drive ends by `o` at `z`. -/
def Ends (s : σ) (n : Nat) (o : Outcome) (z : σ) : Prop :=
  ∃ t, c.Begins d u s n t ∧ c.round u n d t = (.error o, z)

variable {c d u} {s : σ}

theorem Begins.pos {n : Nat} {t : σ} (h : c.Begins d u s n t) : 1 ≤ n := by
  cases h with
  | first => exact Nat.le_refl 1
  | next => omega

theorem Begins.unique {n : Nat} {t t' : σ} (h : c.Begins d u s n t) (h' : c.Begins d u s n t') :
    t = t' := by
  induction h generalizing t' with
  | first =>
    cases h' with
    | first => rfl
    | next h'' => exact absurd h''.pos (by omega)
  | next h hr ih =>
    cases h' with
    | first => exact absurd h.pos (by omega)
    | next h'' hr' =>
      rw [ih h'', hr'] at hr
      cases hr
      rfl

/-- Each attempt begins, unless an earlier one is the last. -/
theorem begins_or_ends (c : Cast ι σ) (d : Staging) (u : Setup ι) (s : σ) (n : Nat) :
    (∃ t, c.Begins d u s (n + 1) t) ∨ ∃ k o t, k ≤ n ∧ c.Ends d u s k o t := by
  induction n with
  | zero => exact .inl ⟨s, .first⟩
  | succ n ih =>
    rcases ih with ⟨t, h⟩ | ⟨k, o, t, hk, h⟩
    · rcases hr : c.round u (n + 1) d t with ⟨o | _, z⟩
      · exact .inr ⟨n + 1, o, z, Nat.le_refl _, t, h, hr⟩
      · exact .inl ⟨z, .next h hr⟩
    · exact .inr ⟨k, o, t, by omega, h⟩

/-! ## The walk goes through all rounds -/

section Walk

variable (hp : d.mode = .blocking → c.IsPlain)
include hp

/-- A round takes at least one pace, since the attempts differ. -/
theorem walk_of_begins {n : Nat} {t : σ} (h : c.Begins d u s n t) :
    ∃ j, n ≤ j + 1 ∧ walk (c.world d) j (calling d u 1, s) = (calling d u n, t) := by
  induction h with
  | first => exact ⟨0, Nat.le_refl _, rfl⟩
  | @next n t z h hr ih =>
    obtain ⟨j, hj, hw⟩ := ih
    obtain ⟨i, hi⟩ := c.reaches_round u n d hp t
    rw [hr] at hi
    have hi' : walk (c.world d) i (calling d u n, t) = (calling d u (n + 1), z) := hi
    have hpos : i ≠ 0 := by
      rintro rfl
      have heq : calling d u n = calling d u (n + 1) := congrArg Prod.fst hi'
      have hlife : n = n + 1 := by
        have := congrArg attempts heq
        exact this
      omega
    exact ⟨j + i, by omega, by rw [walk_add, hw, hi']⟩

theorem walk_of_ends {n : Nat} {o : Outcome} {t : σ} (h : c.Ends d u s n o t) :
    Reaches (c.world d) (calling d u 1, s) (⟨d.mode, u, .done n o⟩, t) := by
  obtain ⟨z, hb, hr⟩ := h
  obtain ⟨j, -, hw⟩ := walk_of_begins hp hb
  have hround := c.reaches_round u n d hp z
  rw [hr] at hround
  exact Reaches.trans ⟨j, hw⟩ hround

/-- A play that is long enough ends as the last round does. -/
theorem play_of_ends {n : Nat} {o : Outcome} {t : σ} (h : c.Ends d u s n o t) :
    ∃ far, ∀ fuel ≥ far, ∀ m ≥ far,
      c.play d u fuel m s = ⟨.ended o, .finished, ⟨d.mode, u, .done n o⟩, t⟩ := by
  obtain ⟨far, hfar⟩ := walk_of_ends hp h
  refine ⟨far, fun fuel hf m hm => ?_⟩
  obtain ⟨k, hk, hle⟩ := c.play_eq_stand d u fuel m s far
  have hover : (walk (c.world d) far (calling d u 1, s)).1.IsOver := by rw [hfar]; exact ⟨n, o, rfl⟩
  rw [hk, walk_of_le _ hover (hle hf hm), hfar]
  rfl

theorem Ends.unique {n n' : Nat} {o o' : Outcome} {t t' : σ} (h : c.Ends d u s n o t)
    (h' : c.Ends d u s n' o' t') : n = n' ∧ o = o' ∧ t = t' := by
  obtain ⟨far, hfar⟩ := play_of_ends hp h
  obtain ⟨far', hfar'⟩ := play_of_ends hp h'
  have heq := hfar (max far far') (Nat.le_max_left _ _) (max far far') (Nat.le_max_left _ _)
  rw [hfar' (max far far') (Nat.le_max_right _ _) (max far far') (Nat.le_max_right _ _)] at heq
  cases heq
  exact ⟨rfl, rfl, rfl⟩

/-- A play that has ended has ended as the last round did. -/
theorem ends_of_play {fuel m : Nat} {o : Outcome} (h : (c.play d u fuel m s).yield = .ended o) :
    ∃ n t, c.Ends d u s n o t ∧
      c.play d u fuel m s = ⟨.ended o, .finished, ⟨d.mode, u, .done n o⟩, t⟩ := by
  obtain ⟨j, hj, -⟩ := c.play_eq_stand d u fuel m s 0
  rw [hj] at h
  obtain ⟨k, hlife⟩ := over_of_yielded (e := (walk (c.world d) j (calling d u 1, s)).1) h
  have hover : (walk (c.world d) j (calling d u 1, s)).1.IsOver := ⟨k, o, hlife⟩
  rcases c.begins_or_ends d u s (j + 1) with ⟨t, hb⟩ | ⟨n, o', t, -, he⟩
  · -- The walk would have to leave the end of the drive for another attempt.
    obtain ⟨i, hi, hw⟩ := walk_of_begins hp hb
    rw [walk_of_le _ hover (by omega)] at hw
    rw [hw] at hlife
    cases hlife
  · obtain ⟨i, hi⟩ := walk_of_ends hp he
    have hover' : (walk (c.world d) i (calling d u 1, s)).1.IsOver := by rw [hi]; exact ⟨n, o', rfl⟩
    have heq : walk (c.world d) j (calling d u 1, s) = (⟨d.mode, u, .done n o'⟩, t) := by
      rcases Nat.le_total i j with h | h
      · rw [walk_of_le _ hover' h, hi]
      · rw [← walk_of_le _ hover h, hi]
    rw [heq] at hlife
    cases hlife
    exact ⟨_, t, he, by rw [hj, heq]; rfl⟩

end Walk

end Reattempt.Cast
