import DiagramBridge.Number.Binary64
import Mathlib.Algebra.Order.Field.Basic
import Mathlib.Algebra.Order.Field.Rat
import Mathlib.Data.Nat.Log
import Mathlib.Order.WithBot
import Mathlib.Tactic.FieldSimp
import Mathlib.Tactic.Positivity
import Mathlib.Tactic.Ring

/-!
# The value and the order of numbers

A mantissa and an exponent stand for the rational number `m * 2 ^ e`. Moving factors of two between
them changes nothing about it, so every statement about numbers becomes one about rational numbers,
whichever of their forms they are in.

Whatever is a number has a place on the rational line with two ends, which are the infinities, and
numbers compare as their places do. So comparing them is transitive and total. Both zeros have one
place, and what is no number stands in no order to anything.
-/

namespace DiagramBridge.Binary64

/-- The value of a mantissa with an exponent. -/
def magnitude (m : Nat) (e : Int) : ℚ :=
  m * 2 ^ e

theorem pow2_cast {e : Int} (h : 0 ≤ e) : ((pow2 e : Nat) : ℚ) = 2 ^ e := by
  have hpow : pow2 e = 2 ^ e.toNat := rfl
  rw [hpow, Nat.cast_pow, Nat.cast_ofNat, ← zpow_natCast, Int.toNat_of_nonneg h]

theorem pow2_pos (e : Int) : 0 < pow2 e :=
  Nat.pow_pos (by decide)

theorem magnitude_of_nonneg {m : Nat} {e : Int} (h : 0 ≤ e) :
    magnitude m e = ((m * pow2 e : Nat) : ℚ) := by
  rw [magnitude, Nat.cast_mul, pow2_cast h]

/-- Scaling by a common power of two. -/
theorem magnitude_eq_mul {m : Nat} {e low : Int} (h : low ≤ e) :
    magnitude m e = ((m * pow2 (e - low) : Nat) : ℚ) * 2 ^ low := by
  rw [magnitude, Nat.cast_mul, pow2_cast (by omega), mul_assoc, ← zpow_add₀ two_ne_zero,
    sub_add_cancel]

/-! ## The normal form -/

theorem magnitude_moveTwos (fuel m : Nat) (e : Int) :
    magnitude (moveTwos fuel m e).1 (moveTwos fuel m e).2 = magnitude m e := by
  induction fuel generalizing m e with
  | zero => rfl
  | succ fuel ih =>
      rw [moveTwos]
      split
      · next heven =>
        have hm : m = 2 * (m / 2) := by omega
        rw [ih, magnitude, magnitude, zpow_add_one₀ two_ne_zero]
        conv_rhs => rw [hm]
        push_cast
        ring
      · rfl

theorem le_exponent_moveTwos (fuel m : Nat) (e : Int) : e ≤ (moveTwos fuel m e).2 := by
  induction fuel generalizing m e with
  | zero => exact le_refl e
  | succ fuel ih =>
      rw [moveTwos]
      split
      · have h := ih (m / 2) (e + 1)
        omega
      · exact le_refl e

theorem moveTwos_ne_zero {fuel m : Nat} {e : Int} (h : m ≠ 0) : (moveTwos fuel m e).1 ≠ 0 := by
  intro hzero
  have hvalue := magnitude_moveTwos fuel m e
  rw [hzero, magnitude, magnitude, Nat.cast_zero, zero_mul] at hvalue
  have hpow : (2 : ℚ) ^ e ≠ 0 := zpow_ne_zero e two_ne_zero
  rcases mul_eq_zero.1 hvalue.symm with hm | he
  · exact h (Nat.cast_eq_zero.1 hm)
  · exact hpow he

/-- A number that is not zero keeps its value in its normal form. -/
theorem ofScaled_eq {m : Nat} (h : m ≠ 0) (negative : Bool) (e : Int) :
    ∃ m' e', ofScaled negative m e = .finite negative m' e' ∧ m' ≠ 0 ∧ e ≤ e' ∧
      magnitude m' e' = magnitude m e := by
  refine ⟨(moveTwos m.log2 m e).1, (moveTwos m.log2 m e).2, ?_, moveTwos_ne_zero h,
    le_exponent_moveTwos .., magnitude_moveTwos ..⟩
  rw [ofScaled, if_neg h]

/-- An integer is what it was as a number. -/
theorem toInt?_ofInt (n : Int) : (ofInt n).toInt? = some n := by
  rw [ofInt]
  by_cases hn : n.natAbs = 0
  · rw [ofScaled, if_pos hn, Int.natAbs_eq_zero.1 hn]
    rfl
  · obtain ⟨m, e, heq, hm, he, hvalue⟩ := ofScaled_eq hn (decide (n < 0)) 0
    rw [magnitude_of_nonneg he, magnitude_of_nonneg (le_refl 0)] at hvalue
    have hnat : m * pow2 e = n.natAbs := by
      have hone : pow2 0 = 1 := rfl
      rw [hone, mul_one] at hvalue
      exact_mod_cast hvalue
    rw [heq, toInt?, if_neg hm, if_pos he, hnat, signed]
    by_cases hneg : n < 0
    · rw [if_pos (decide_eq_true hneg), Int.ofNat_natAbs_of_nonpos (by omega), neg_neg]
    · rw [if_neg (by simpa using hneg), Int.natAbs_of_nonneg (by omega)]

theorem ofInt_injective : Function.Injective ofInt := by
  intro m n h
  have hm := toInt?_ofInt m
  rw [h, toInt?_ofInt] at hm
  exact (Option.some.inj hm).symm

/-! ## Order -/

/-- The value of a mantissa with an exponent and a sign. -/
def signedMagnitude (negative : Bool) (m : Nat) (e : Int) : ℚ :=
  if negative then -magnitude m e else magnitude m e

/-- The place of a number on the rational line with two ends. What is no number has none, and is
put at the lower end. -/
def place : Binary64 → WithBot (WithTop ℚ)
  | finite negative m e => ((signedMagnitude negative m e : WithTop ℚ) : WithBot (WithTop ℚ))
  | infinite false => ⊤
  | infinite true => ⊥
  | nan => ⊥

/-- Finite numbers compare as their values do. -/
theorem lt_finite_iff {s s' : Bool} {m m' : Nat} {e e' : Int} :
    lt (finite s m e) (finite s' m' e') = true ↔
      signedMagnitude s m e < signedMagnitude s' m' e' := by
  have hpos : (0 : ℚ) < 2 ^ min e e' := zpow_pos two_pos _
  have hscaled : ∀ (t : Bool) (n : Nat) (x : Int), min e e' ≤ x → signedMagnitude t n x =
      ((signed t (n * pow2 (x - min e e')) : Int) : ℚ) * 2 ^ min e e' := by
    intro t n x hx
    rw [signedMagnitude, signed, magnitude_eq_mul hx]
    cases t <;> simp
  rw [hscaled s m e (min_le_left e e'), hscaled s' m' e' (min_le_right e e'),
    mul_lt_mul_iff_left₀ hpos, Int.cast_lt]
  simp only [lt, decide_eq_true_eq]

section

variable {x y : Binary64} (hx : x.isNaN = false) (hy : y.isNaN = false)
include hx hy

theorem lt_iff_place_lt : x.lt y = true ↔ x.place < y.place := by
  have htop : ∀ q : ℚ, ((q : WithTop ℚ) : WithBot (WithTop ℚ)) < ⊤ := fun q =>
    WithBot.coe_lt_coe.2 (WithTop.coe_lt_top q)
  cases x with
  | nan => exact absurd hx (by decide)
  | finite s m e =>
      cases y with
      | nan => exact absurd hy (by decide)
      | finite s' m' e' =>
          rw [lt_finite_iff, place, place, WithBot.coe_lt_coe, WithTop.coe_lt_coe]
      | infinite n => cases n <;> simp [lt, place, htop]
  | infinite n =>
      cases y with
      | nan => exact absurd hy (by decide)
      | finite s m e => cases n <;> simp [lt, place]
      | infinite n' => cases n <;> cases n' <;> simp [lt, place]

theorem le_eq_not_lt : x.le y = !y.lt x := by
  cases x <;> cases y <;> simp_all [le, isNaN]

theorem le_iff_place_le : x.le y = true ↔ x.place ≤ y.place := by
  rw [le_eq_not_lt hx hy, Bool.not_eq_true', ← not_lt, ← lt_iff_place_lt hy hx, Bool.not_eq_true]

end

/-- Numbers without a sign compare as their magnitudes do. -/
theorem le_finite_iff {m m' : Nat} {e e' : Int} :
    le (finite false m e) (finite false m' e') = true ↔ magnitude m e ≤ magnitude m' e' := by
  rw [le_iff_place_le rfl rfl, place, place, WithBot.coe_le_coe, WithTop.coe_le_coe]
  rfl

end DiagramBridge.Binary64
