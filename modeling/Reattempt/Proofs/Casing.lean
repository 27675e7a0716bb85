import Reattempt.Text.Letter

/-!
# Upper case is final

A text in upper case stays as it is when it is put into upper case again. No run starts from a letter to which a
run leads, and no letter that becomes several is one of them; the runs are compared as wholes, by their ends and
by which of two neighbours they hold.
-/
namespace Reattempt.Text

namespace CaseRun

/-- Where the letters of a run are led. -/
def image (r : CaseRun) : CaseRun := ⟨(r.first + r.shift).toNat, (r.last + r.shift).toNat, r.step, 0⟩

/-- A run of one letter, or of every other letter. -/
def isSparse (r : CaseRun) : Bool := r.first == r.last || r.step == 2

/-- One run ends before the other starts, or they hold different ones of two neighbours. -/
def avoids (r q : CaseRun) : Bool :=
  r.last.blt q.first || q.last.blt r.first || (r.isSparse && q.isSparse && r.first % 2 != q.first % 2)

variable {r q : CaseRun} {n : Nat}

theorem contains_iff : r.contains n ↔ r.first ≤ n ∧ n ≤ r.last ∧ (n - r.first) % r.step = 0 := by
  simp [contains, and_assoc]

theorem contains_image (hr : 0 ≤ r.first + r.shift) (h : r.contains n) :
    r.image.contains ((n : Int) + r.shift).toNat := by
  obtain ⟨hfirst, hlast, hstep⟩ := contains_iff.mp h
  have hsame : ((n : Int) + r.shift).toNat - (r.first + r.shift).toNat = n - r.first := by omega
  refine contains_iff.mpr ⟨?_, ?_, ?_⟩ <;> simp only [image]
  · omega
  · omega
  · rw [hsame, hstep]

theorem parity_of_isSparse (hr : r.isSparse) (h : r.contains n) : n % 2 = r.first % 2 := by
  obtain ⟨hfirst, hlast, hstep⟩ := contains_iff.mp h
  simp only [isSparse, Bool.or_eq_true, beq_iff_eq] at hr
  rcases hr with hr | hr
  · omega
  · rw [hr] at hstep
    omega

theorem not_contains_of_avoids (h : r.avoids q) (hr : r.contains n) : q.contains n = false := by
  refine Bool.eq_false_iff.mpr fun hq => ?_
  have hr' := contains_iff.mp hr
  have hq' := contains_iff.mp hq
  simp only [avoids, Bool.or_eq_true, Bool.and_eq_true, Nat.blt_eq, bne_iff_ne] at h
  rcases h with (h | h) | ⟨⟨hsr, hsq⟩, h⟩
  · omega
  · omega
  · exact h ((parity_of_isSparse hsr hr).symm.trans (parity_of_isSparse hsq hq))

end CaseRun

/-! ## The table -/

theorem nonneg_upperRuns : ∀ r ∈ upperRuns, 0 ≤ r.first + r.shift := by decide +kernel

/-- The images are worked out once each, not for every pair. -/
theorem avoids_upperRuns : ∀ r ∈ upperRuns.map CaseRun.image, upperRuns.all r.avoids := by decide +kernel

theorem avoids_upperSeveral :
    ∀ r ∈ upperRuns.map CaseRun.image, upperSeveral.all fun e => !r.contains e.1 := by decide +kernel

theorem upper_upperSeveral : ∀ e ∈ upperSeveral, upper (e.2.map Char.ofNat) = e.2.map Char.ofNat := by
  decide +kernel

/-! ## Single letters -/

/-- No run leads on from here, and this does not become several letters. -/
def IsUpper (n : Nat) : Prop := (∀ q ∈ upperRuns, q.contains n = false) ∧ upperSeveral.lookup n = none

theorem isUpper_zero : IsUpper 0 := ⟨by decide +kernel, rfl⟩

/-- A number that is no character stands for the character zero. -/
theorem isUpper_ofNat {n : Nat} (h : IsUpper n) : IsUpper (Char.ofNat n).toNat := by
  by_cases hvalid : n.isValidChar
  · have hchar : Char.ofNat n = Char.ofNatAux n hvalid := dif_pos hvalid
    rw [hchar]
    exact h
  · have hzero : (Char.ofNat n).toNat = 0 := congrArg Char.toNat (dif_neg hvalid)
    rw [hzero]
    exact isUpper_zero

/-- A run leads to upper case. -/
theorem isUpper_of_mem {r : CaseRun} {n : Nat} (hr : r ∈ upperRuns) (h : r.contains n) :
    IsUpper ((n : Int) + r.shift).toNat := by
  have himage : r.image ∈ upperRuns.map CaseRun.image := List.mem_map_of_mem hr
  have hcontains := CaseRun.contains_image (nonneg_upperRuns r hr) h
  constructor
  · intro q hq
    exact CaseRun.not_contains_of_avoids (List.all_eq_true.mp (avoids_upperRuns _ himage) q hq) hcontains
  · refine List.lookup_eq_none_iff.mpr fun e he => bne_iff_ne.mpr fun heq => ?_
    have hlacks := List.all_eq_true.mp (avoids_upperSeveral _ himage) e he
    rw [heq] at hcontains
    simp [hcontains] at hlacks

theorem upperChar_of_isUpper {c : Char} (h : IsUpper c.toNat) : upperChar c = [c] := by
  have hfind : upperRuns.find? (·.contains c.toNat) = none :=
    List.find?_eq_none.mpr fun q hq => by simp [h.1 q hq]
  simp only [upperChar, h.2, otherCase, hfind]

theorem upper_upperChar (c : Char) : upper (upperChar c) = upperChar c := by
  cases hs : upperSeveral.lookup c.toNat with
  | some ns =>
    obtain ⟨before, after, hsplit, -⟩ := List.lookup_eq_some_iff.mp hs
    have hmem : (c.toNat, ns) ∈ upperSeveral := by simp [hsplit]
    have hchar : upperChar c = ns.map Char.ofNat := by simp only [upperChar, hs]
    rw [hchar]
    exact upper_upperSeveral _ hmem
  | none =>
    cases hf : upperRuns.find? (·.contains c.toNat) with
    | none =>
      have hchar : upperChar c = [c] := by simp only [upperChar, hs, otherCase, hf]
      rw [hchar, upper, List.flatMap_singleton, hchar]
    | some r =>
      have hchar : upperChar c = [Char.ofNat ((c.toNat : Int) + r.shift).toNat] := by
        simp only [upperChar, hs, otherCase, hf]
      have hupper : IsUpper (Char.ofNat ((c.toNat : Int) + r.shift).toNat).toNat :=
        isUpper_ofNat (isUpper_of_mem (List.mem_of_find?_eq_some hf) (by simpa using List.find?_some hf))
      rw [hchar, upper, List.flatMap_singleton, upperChar_of_isUpper hupper]

/-! ## Texts -/

/-- Upper case is final. -/
theorem upper_upper (cs : List Char) : upper (upper cs) = upper cs := by
  induction cs with
  | nil => rfl
  | cons c cs ih =>
    have hcons : upper (c :: cs) = upperChar c ++ upper cs := List.flatMap_cons
    rw [hcons, upper_append, upper_upperChar, ih]

end Reattempt.Text
