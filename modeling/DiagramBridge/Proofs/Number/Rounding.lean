import DiagramBridge.Proofs.Number.Binary64

/-!
# Whole numbers after rounding

A whole number keeps 53 significant bits, and a half goes to the even side. Rounding never changes
the order of two numbers: among numbers with equally many bits the quotients are in order and so are
the remainders, and a number with fewer bits stays at or below the power of two that a longer one
starts from. What is too large becomes the infinity, which is the largest.
-/

namespace DiagramBridge.Binary64

/-! ## Division to the nearest -/

theorem div_le_divideToEven (n d : Nat) : n / d ≤ divideToEven n d := by
  simp only [divideToEven]
  split <;> omega

theorem divideToEven_le (n d : Nat) : divideToEven n d ≤ n / d + 1 := by
  simp only [divideToEven]
  split <;> omega

theorem divideToEven_mul_self {d : Nat} (hd : 0 < d) (q : Nat) : divideToEven (q * d) d = q := by
  simp only [divideToEven, Nat.mul_mod_left, Nat.mul_div_cancel q hd]
  rw [if_neg]
  simp
  omega

theorem divideToEven_mono {a b : Nat} (d : Nat) (h : a ≤ b) :
    divideToEven a d ≤ divideToEven b d := by
  rcases Nat.lt_or_eq_of_le (Nat.div_le_div_right (c := d) h) with hlt | heq
  · calc divideToEven a d ≤ a / d + 1 := divideToEven_le a d
      _ ≤ b / d := hlt
      _ ≤ divideToEven b d := div_le_divideToEven b d
  · have hmod : a % d ≤ b % d := by
      have ha := Nat.div_add_mod a d
      have hb := Nat.div_add_mod b d
      rw [← heq] at hb
      omega
    simp only [divideToEven, heq]
    split
    · next hup =>
      rw [if_pos]
      simp only [Bool.or_eq_true, Bool.and_eq_true, decide_eq_true_eq, beq_iff_eq] at hup ⊢
      omega
    · split <;> omega

/-! ## Rounding a whole number -/

/-- A whole number with as many bits at the end as it has too many made zero. -/
def roundNat (n : Nat) : Nat :=
  divideToEven n (2 ^ (n.log2 - 52)) * 2 ^ (n.log2 - 52)

/-- A power of two with enough zeros at its end is a multiple of the unit. -/
theorem divideToEven_two_pow {k L : Nat} (h : k ≤ L) :
    divideToEven (2 ^ L) (2 ^ k) * 2 ^ k = 2 ^ L := by
  have hpow : 2 ^ L = 2 ^ (L - k) * 2 ^ k := by rw [← Nat.pow_add, Nat.sub_add_cancel h]
  rw [hpow, divideToEven_mul_self (Nat.pow_pos (by decide))]

theorem le_roundNat {n : Nat} (h : n ≠ 0) : 2 ^ n.log2 ≤ roundNat n :=
  calc 2 ^ n.log2 = divideToEven (2 ^ n.log2) (2 ^ (n.log2 - 52)) * 2 ^ (n.log2 - 52) :=
        (divideToEven_two_pow (Nat.sub_le ..)).symm
    _ ≤ roundNat n := Nat.mul_le_mul_right _ (divideToEven_mono _ (Nat.log2_self_le h))

theorem roundNat_le (n : Nat) : roundNat n ≤ 2 ^ (n.log2 + 1) :=
  calc roundNat n ≤ divideToEven (2 ^ (n.log2 + 1)) (2 ^ (n.log2 - 52)) * 2 ^ (n.log2 - 52) :=
        Nat.mul_le_mul_right _ (divideToEven_mono _ Nat.lt_log2_self.le)
    _ = 2 ^ (n.log2 + 1) := divideToEven_two_pow (by omega)

theorem roundNat_mono {m n : Nat} (h : m ≤ n) : roundNat m ≤ roundNat n := by
  by_cases hm : m = 0
  · have hzero : roundNat 0 = 0 := by decide
    rw [hm, hzero]
    exact Nat.zero_le _
  · have hn : n ≠ 0 := by omega
    have hlog : m.log2 ≤ n.log2 := (Nat.le_log2 hn).2 ((Nat.log2_self_le hm).trans h)
    rcases Nat.lt_or_eq_of_le hlog with hlt | heq
    · calc roundNat m ≤ 2 ^ (m.log2 + 1) := roundNat_le m
        _ ≤ 2 ^ n.log2 := Nat.pow_le_pow_right (by decide) hlt
        _ ≤ roundNat n := le_roundNat hn
    · rw [roundNat, roundNat, heq]
      exact Nat.mul_le_mul_right _ (divideToEven_mono _ h)

/-! ## The number of a whole number -/

/-- The exponent of the leading bit tells whether a number reaches a power of two. -/
theorem le_add_log2_iff {m : Nat} (hm : m ≠ 0) (e k : Int) :
    k ≤ e + m.log2 ↔ (2 : ℚ) ^ k ≤ magnitude m e := by
  have hscale : (2 : ℚ) ^ k = 2 ^ (k - e) * 2 ^ e := by
    rw [← zpow_add₀ two_ne_zero, sub_add_cancel]
  rw [magnitude, hscale, mul_le_mul_iff_left₀ (zpow_pos two_pos e)]
  rcases le_or_gt (k - e) 0 with hle | hgt
  · have hone : (1 : ℚ) ≤ m := by exact_mod_cast Nat.one_le_iff_ne_zero.2 hm
    have hpow : (2 : ℚ) ^ (k - e) ≤ 1 := zpow_le_one_of_nonpos₀ one_le_two hle
    exact ⟨fun _ => hpow.trans hone, fun _ => by omega⟩
  · obtain ⟨j, hj⟩ := Int.eq_ofNat_of_zero_le hgt.le
    rw [hj, zpow_natCast]
    have hcast : (2 : ℚ) ^ j ≤ m ↔ 2 ^ j ≤ m := by exact_mod_cast Iff.rfl
    rw [hcast, ← Nat.le_log2 hm]
    omega

theorem overPower_one_of_nonneg {n : Nat} {e : Int} (h : 0 ≤ e) :
    overPower n 1 e = (n, pow2 e) := by
  rw [overPower, if_pos h, one_mul]

theorem overPower_one_of_neg {n : Nat} {e : Int} (h : e < 0) :
    overPower n 1 e = (n * pow2 (-e), 1) := by
  rw [overPower, if_neg (by omega)]

/-- With one bit more than the precision there are enough bits. -/
theorem le_div_overPower {n : Nat} (hn : n ≠ 0) :
    pow2 53 ≤ (overPower n 1 (n.log2 - 53)).1 / (overPower n 1 (n.log2 - 53)).2 := by
  have hself : 2 ^ n.log2 ≤ n := Nat.log2_self_le hn
  rcases le_or_gt 0 ((n.log2 : Int) - 53) with hle | hlt
  · rw [overPower_one_of_nonneg hle, Nat.le_div_iff_mul_le (pow2_pos _)]
    have hexp : 53 + ((n.log2 : Int) - 53).toNat = n.log2 := by omega
    calc pow2 53 * pow2 ((n.log2 : Int) - 53) = 2 ^ (53 + ((n.log2 : Int) - 53).toNat) :=
          (Nat.pow_add ..).symm
      _ = 2 ^ n.log2 := by rw [hexp]
      _ ≤ n := hself
  · rw [overPower_one_of_neg hlt, Nat.div_one]
    have hexp : n.log2 + (-((n.log2 : Int) - 53)).toNat = 53 := by omega
    calc pow2 53 = 2 ^ (n.log2 + (-((n.log2 : Int) - 53)).toNat) := by rw [hexp]; rfl
      _ = 2 ^ n.log2 * pow2 (-((n.log2 : Int) - 53)) := Nat.pow_add ..
      _ ≤ n * pow2 (-((n.log2 : Int) - 53)) := Nat.mul_le_mul_right _ hself

/-- The bits that are kept stand for the rounded number. -/
theorem magnitude_overPower (n : Nat) :
    magnitude (divideToEven (overPower n 1 (n.log2 - 52)).1 (overPower n 1 (n.log2 - 52)).2)
      (n.log2 - 52) = roundNat n := by
  rcases le_or_gt 0 ((n.log2 : Int) - 52) with hle | hlt
  · have hexp : ((n.log2 : Int) - 52).toNat = n.log2 - 52 := by omega
    have hpow : pow2 ((n.log2 : Int) - 52) = 2 ^ (n.log2 - 52) := by rw [← hexp]; rfl
    rw [overPower_one_of_nonneg hle, magnitude_of_nonneg hle, hpow, roundNat]
  · have hexp : n.log2 - 52 = 0 := by omega
    have hexact : ∀ k, divideToEven k 1 = k := fun k => by
      simpa using divideToEven_mul_self Nat.one_pos k
    rw [overPower_one_of_neg hlt, roundNat, hexp, Nat.pow_zero, hexact, hexact, magnitude,
      Nat.cast_mul, pow2_cast (by omega), mul_assoc, ← zpow_add₀ two_ne_zero, neg_add_cancel,
      zpow_zero, mul_one, mul_one]

/-- What a whole number becomes: the infinity, or a number with the value of the rounded one. -/
theorem roundQuotient_one {n : Nat} (hn : n ≠ 0) :
    ∃ m e, m ≠ 0 ∧ magnitude m e = roundNat n ∧
      roundQuotient false n 1 =
        if (2 : ℚ) ^ (1024 : Int) ≤ roundNat n then .infinite false else .finite false m e := by
  have hvalue := magnitude_overPower n
  generalize hbits : divideToEven (overPower n 1 (n.log2 - 52)).1
    (overPower n 1 (n.log2 - 52)).2 = bits at hvalue
  have hne : bits ≠ 0 := by
    rintro rfl
    rw [magnitude, Nat.cast_zero, zero_mul] at hvalue
    have hpos : 2 ^ n.log2 ≤ roundNat n := le_roundNat hn
    have htwo : 0 < 2 ^ n.log2 := Nat.pow_pos (by decide)
    have hzero : roundNat n = 0 := by exact_mod_cast hvalue.symm
    omega
  obtain ⟨m, e, hform, hm, -, hsame⟩ := ofScaled_eq hne false ((n.log2 : Int) - 52)
  refine ⟨m, e, hm, hsame.trans hvalue, ?_⟩
  -- The scale that is guessed first is one too low, and the correction raises it once.
  have hlow : max (-1074) ((n.log2 : Int) - (Nat.log2 1 : Nat) - 53) = (n.log2 : Int) - 53 := by
    have hone : Nat.log2 1 = 0 := by decide
    rw [hone]
    omega
  have hup : (n.log2 : Int) - 53 + 1 = n.log2 - 52 := by omega
  have hover := le_add_log2_iff hne ((n.log2 : Int) - 52) 1024
  rw [hvalue] at hover
  simp only [roundQuotient, if_neg hn, hlow, ge_iff_le, le_div_overPower hn, if_true, hup, hbits,
    hover, hform]

theorem isZero_roundQuotient_one {n : Nat} (hn : n ≠ 0) :
    (roundQuotient false n 1).isZero = false := by
  obtain ⟨m, e, hm, -, heq⟩ := roundQuotient_one hn
  rw [heq]
  split
  · rfl
  · simpa [isZero] using hm

theorem isNaN_roundQuotient_one (n : Nat) : (roundQuotient false n 1).isNaN = false := by
  by_cases hn : n = 0
  · rw [hn]
    rfl
  · obtain ⟨m, e, -, -, heq⟩ := roundQuotient_one hn
    rw [heq]
    split <;> rfl

/-- Rounding keeps the order of whole numbers. -/
theorem le_roundQuotient_one {m n : Nat} (hm : m ≠ 0) (h : m ≤ n) :
    le (roundQuotient false m 1) (roundQuotient false n 1) = true := by
  obtain ⟨a, d, -, hvalue, heq⟩ := roundQuotient_one hm
  obtain ⟨b, e, -, hvalue', heq'⟩ := roundQuotient_one (n := n) (by omega)
  have hmono : (roundNat m : ℚ) ≤ roundNat n := by exact_mod_cast roundNat_mono h
  rw [heq, heq']
  split
  · next hbig =>
    rw [if_pos (hbig.trans hmono)]
    rfl
  · split
    · rfl
    · rw [le_finite_iff, hvalue, hvalue']
      exact hmono

end DiagramBridge.Binary64
