import Mathlib

/-!
# One's complement residues

A one's complement sum of width {w} is a residue modulo {2 ^ w - 1}, written
in {[0, 2 ^ w)} with the zero sum kept apart from the all-ones word.  The
end-around carry folds the bits above {w} back onto the low bits without
changing that residue.

This module proves what a checksum built on the fold needs: one round of the
fold keeps the residue, a value below {2 ^ w} is its own residue, and adding
the complement of a residue to the value it came from gives the all-ones
word, which the final complement turns into zero.  One's complement addition
word by word, as a specification states the sum, computes the same residue,
and a residue is unique, so a fold and a word-by-word sum agree.
-/

namespace OnesComplement

/-- One round of end-around carry at width {w}. -/
def endAroundCarry (w x : Nat) : Nat :=
  x % 2 ^ w + x / 2 ^ w

/-- {r} is the {w}-bit one's complement residue of {x}. -/
structure IsResidue (w x r : Nat) : Prop where
  lt : r < 2 ^ w
  modEq : r ≡ x [MOD 2 ^ w - 1]
  eq_zero_iff : r = 0 ↔ x = 0

theorem two_pow_modEq_one (w : Nat) : 2 ^ w ≡ 1 [MOD 2 ^ w - 1] :=
  Nat.modEq_sub Nat.one_le_two_pow

theorem endAroundCarry_modEq (w x : Nat) :
    endAroundCarry w x ≡ x [MOD 2 ^ w - 1] := by
  have hhigh : x / 2 ^ w ≡ 2 ^ w * (x / 2 ^ w) [MOD 2 ^ w - 1] := by
    have h := (two_pow_modEq_one w).mul_right (x / 2 ^ w)
    rw [one_mul] at h
    exact h.symm
  calc endAroundCarry w x
      ≡ x % 2 ^ w + 2 ^ w * (x / 2 ^ w) [MOD 2 ^ w - 1] :=
        Nat.ModEq.add_left _ hhigh
    _ = x := Nat.mod_add_div x (2 ^ w)

theorem endAroundCarry_eq_zero_iff (w x : Nat) :
    endAroundCarry w x = 0 ↔ x = 0 := by
  unfold endAroundCarry
  constructor
  · intro h
    have hsplit := Nat.mod_add_div x (2 ^ w)
    have hmod : x % 2 ^ w = 0 := by lia
    have hdiv : x / 2 ^ w = 0 := by lia
    rw [hmod, hdiv, Nat.mul_zero] at hsplit
    exact hsplit.symm
  · rintro rfl
    simp

theorem isResidue_self {w x : Nat} (h : x < 2 ^ w) : IsResidue w x x :=
  ⟨h, Nat.ModEq.refl x, Iff.rfl⟩

theorem IsResidue.of_endAroundCarry {w x r : Nat}
    (h : IsResidue w (endAroundCarry w x) r) : IsResidue w x r :=
  ⟨h.lt, h.modEq.trans (endAroundCarry_modEq w x),
    h.eq_zero_iff.trans (endAroundCarry_eq_zero_iff w x)⟩

/-- A nonzero residue of a multiple of {2 ^ w - 1} is the all-ones word. -/
theorem IsResidue.eq_allOnes_of_modEq_zero {w x r : Nat}
    (h : IsResidue w x r) (hx : x ≠ 0) (hmod : x ≡ 0 [MOD 2 ^ w - 1]) :
    r = 2 ^ w - 1 := by
  have hr : r ≠ 0 := fun hr => hx (h.eq_zero_iff.mp hr)
  obtain ⟨k, hk⟩ : 2 ^ w - 1 ∣ r :=
    Nat.modEq_zero_iff_dvd.mp (h.modEq.trans hmod)
  have hlt : r < 2 ^ w - 1 + 1 := by
    have := h.lt
    lia
  rcases k with _ | _ | k
  · rw [hk, Nat.mul_zero] at hr
    exact absurd rfl hr
  · rw [hk, Nat.mul_one]
  · have hmul : 2 ^ w - 1 + (2 ^ w - 1) ≤ r := by
      rw [hk]
      simp only [Nat.mul_add, Nat.mul_one]
      omega
    have hpos : 0 < 2 ^ w - 1 := by
      rcases Nat.eq_zero_or_pos (2 ^ w - 1) with h0 | h0
      · rw [h0, Nat.zero_mul] at hk
        exact absurd hk hr
      · exact h0
    lia

/--
Adding the complement of the residue of {x} to {x} gives a sum whose residue
is the all-ones word.
-/
theorem IsResidue.add_complement {w x r r' : Nat} (hw : 1 ≤ w)
    (h : IsResidue w x r) (h' : IsResidue w (x + (2 ^ w - 1 - r)) r') :
    r' = 2 ^ w - 1 := by
  have hpow : 2 ≤ 2 ^ w := by
    calc 2 = 2 ^ 1 := rfl
      _ ≤ 2 ^ w := Nat.pow_le_pow_right (by decide) hw
  have hrle : r ≤ 2 ^ w - 1 := by
    have := h.lt
    lia
  apply h'.eq_allOnes_of_modEq_zero
  · intro hsum
    have hx : x = 0 := by lia
    have hr : r = 0 := h.eq_zero_iff.mpr hx
    lia
  · calc x + (2 ^ w - 1 - r)
        ≡ r + (2 ^ w - 1 - r) [MOD 2 ^ w - 1] :=
          Nat.ModEq.add_right _ h.modEq.symm
      _ = 2 ^ w - 1 := by lia
      _ ≡ 0 [MOD 2 ^ w - 1] := Nat.modEq_zero_iff_dvd.mpr dvd_rfl

/-- The residue of a sum is determined by the sum. -/
theorem IsResidue.unique {w x r r' : Nat} (h : IsResidue w x r) (h' : IsResidue w x r') :
    r = r' := by
  by_cases hx : x = 0
  · rw [h.eq_zero_iff.mpr hx, h'.eq_zero_iff.mpr hx]
  · -- both lie in [1, 2 ^ w - 1], where distinct values differ modulo 2 ^ w - 1
    have hr : r ≠ 0 := fun hr => hx (h.eq_zero_iff.mp hr)
    have hr' : r' ≠ 0 := fun hr' => hx (h'.eq_zero_iff.mp hr')
    have hmod : r % (2 ^ w - 1) = r' % (2 ^ w - 1) := h.modEq.trans h'.modEq.symm
    have hlt := h.lt
    have hlt' := h'.lt
    rcases Nat.lt_or_ge r (2 ^ w - 1) with hrm | hrm <;>
      rcases Nat.lt_or_ge r' (2 ^ w - 1) with hrm' | hrm'
    · rwa [Nat.mod_eq_of_lt hrm, Nat.mod_eq_of_lt hrm'] at hmod
    · have hr'eq : r' = 2 ^ w - 1 := by lia
      rw [Nat.mod_eq_of_lt hrm, hr'eq, Nat.mod_self] at hmod
      exact absurd hmod hr
    · have hreq : r = 2 ^ w - 1 := by lia
      rw [Nat.mod_eq_of_lt hrm', hreq, Nat.mod_self] at hmod
      exact absurd hmod.symm hr'
    · lia

/-! ## Word-by-word addition -/

/-- One's complement addition of two {w}-bit words: the carry out of the top bit comes back in at the bottom. -/
def onesAdd (w a b : Nat) : Nat :=
  if a + b < 2 ^ w then a + b else a + b - 2 ^ w + 1

/-- The one's complement sum of a list of {w}-bit words. -/
def onesSum (w : Nat) (xs : List Nat) : Nat :=
  xs.foldl (onesAdd w) 0

theorem IsResidue.onesAdd {w x a b : Nat} (h : IsResidue w x a) (hb : b < 2 ^ w) :
    IsResidue w (x + b) (onesAdd w a b) := by
  have ha := h.lt
  unfold OnesComplement.onesAdd
  split_ifs with hlt
  · refine ⟨hlt, h.modEq.add_right b, ?_⟩
    constructor
    · intro h0
      have hx : x = 0 := h.eq_zero_iff.mp (by lia)
      lia
    · intro h0
      have ha0 : a = 0 := h.eq_zero_iff.mpr (by lia)
      lia
  · -- the carry: the sum lost 2 ^ w and gained 1, which is the same modulo 2 ^ w - 1
    refine ⟨by lia, ?_, ?_⟩
    · calc a + b - 2 ^ w + 1
          ≡ a + b - 2 ^ w + 1 + (2 ^ w - 1) [MOD 2 ^ w - 1] := (Nat.add_mod_right _ _).symm
        _ = a + b := by lia
        _ ≡ x + b [MOD 2 ^ w - 1] := h.modEq.add_right b
    · constructor
      · intro h0
        lia
      · intro h0
        have ha0 : a = 0 := h.eq_zero_iff.mpr (by lia)
        lia

theorem isResidue_foldl_onesAdd {w : Nat} :
    ∀ (xs : List Nat) (x a : Nat), IsResidue w x a → (∀ b ∈ xs, b < 2 ^ w) →
      IsResidue w (x + xs.sum) (xs.foldl (onesAdd w) a)
  | [], x, a, h, _ => by simpa using h
  | b :: bs, x, a, h, hxs => by
      have ih := isResidue_foldl_onesAdd bs (x + b) (onesAdd w a b)
        (h.onesAdd (hxs b List.mem_cons_self)) (fun c hc => hxs c (List.mem_cons_of_mem b hc))
      rw [List.sum_cons, ← Nat.add_assoc]
      exact ih

/-- The word-by-word sum is the residue of the plain sum. -/
theorem isResidue_onesSum {w : Nat} {xs : List Nat} (hxs : ∀ b ∈ xs, b < 2 ^ w) :
    IsResidue w xs.sum (onesSum w xs) := by
  have h := isResidue_foldl_onesAdd xs 0 0 (isResidue_self (Nat.two_pow_pos w)) hxs
  rwa [Nat.zero_add] at h

end OnesComplement
