import DiagramBridge.Proofs.Number.Digits
import DiagramBridge.Proofs.Number.Rounding
import DiagramBridge.Proofs.Text.Blank

/-!
# Reading a written whole number

A row of digits has no white space, no underscore, no sign, no point and no exponent, so every stage
of reading leaves it alone, and it is read as the number nearest to its value.
-/

namespace DiagramBridge.Numeral

open Text

variable {ds : List Char}

theorem toNat_of_isAsciiDigit {c : Char} (h : isAsciiDigit c = true) :
    48 ≤ c.toNat ∧ c.toNat ≤ 57 := by
  rw [isAsciiDigit, Bool.and_eq_true, decide_eq_true_eq, decide_eq_true_eq] at h
  exact h

theorem plain_of_digits (h : ∀ c ∈ ds, isAsciiDigit c = true) : plain ds = ds := by
  have hchar : ∀ c ∈ ds, plainChar c = c := by
    intro c hc
    have hle := (toNat_of_isAsciiDigit (h c hc)).2
    rw [plainChar, if_pos (by omega)]
  have hmap : ds.map plainChar = ds := by
    rw [List.map_congr_left hchar, List.map_id']
  rw [plain, hmap]
  exact trim_of_isTrimmed (isTrimmed_of_forall fun c hc =>
    isBlank_of_isWord (isWord_of_isAsciiDigit (h c hc)))

theorem joinDigits?_of_digits (h : ∀ c ∈ ds, isAsciiDigit c = true) (afterDigit : Bool) :
    joinDigits? afterDigit ds = some ds := by
  induction ds generalizing afterDigit with
  | nil => rfl
  | cons c s ih =>
      have hc : c ≠ '_' := ne_of_kind (h c (by simp)) (by decide)
      rw [joinDigits?.eq_def]
      split
      · next heq => exact absurd heq (by simp)
      · next heq => exact absurd (List.cons.inj heq).1 hc
      · next heq => exact absurd (List.cons.inj heq).1 hc
      · next heq =>
        obtain ⟨rfl, rfl⟩ := List.cons.inj heq
        rw [ih fun d hd => h d (by simp [hd])]
        rfl

theorem takeSign_of_digits (h : ∀ c ∈ ds, isAsciiDigit c = true) :
    takeSign ds = (false, ds) := by
  rw [takeSign.eq_def]
  split
  · exact absurd (h '-' (by simp)) (by decide)
  · exact absurd (h '+' (by simp)) (by decide)
  · rfl

theorem readWord?_of_digits (h : ∀ c ∈ ds, isAsciiDigit c = true) (hne : ds ≠ [])
    (negative : Bool) : readWord? negative ds = none := by
  obtain ⟨c, s, rfl⟩ := List.exists_cons_of_ne_nil hne
  have hc := toNat_of_isAsciiDigit (h c (by simp))
  have hlower : ¬ ('A' ≤ c && c ≤ 'Z') = true := by
    intro hletter
    rw [Bool.and_eq_true, decide_eq_true_eq, decide_eq_true_eq] at hletter
    have hle : 65 ≤ c.toNat := hletter.1
    omega
  have hi : c ≠ 'i' := ne_of_kind (h c (by simp)) (by decide)
  have hn : c ≠ 'n' := ne_of_kind (h c (by simp)) (by decide)
  rw [readWord?, List.map_cons, if_neg hlower, if_neg, if_neg]
  · intro heq
    exact hn (List.cons.inj heq).1
  · rw [Bool.or_eq_true, decide_eq_true_eq, decide_eq_true_eq]
    rintro (heq | heq)
    · exact hi (List.cons.inj heq).1
    · exact hi (List.cons.inj heq).1

theorem readUnsigned?_of_digits (h : ∀ c ∈ ds, isAsciiDigit c = true) (hne : ds ≠ [])
    (negative : Bool) :
    readUnsigned? negative ds = some (.ofDecimal negative (digitsFrom 0 ds) 0) := by
  have hspan : ds.span isAsciiDigit = (ds, []) := by
    simpa using span_append_of_stops h (stops_nil isAsciiDigit)
  rw [readUnsigned?, hspan]
  simp [hne, readExponent?, digitsFrom]

/-- A written whole number is read as the number nearest to it. -/
theorem readReal?_decimal {n : Nat} (hn : n ≠ 0) :
    readReal? (decimal n) = some (.roundQuotient false n 1) := by
  have hdigits : ∀ c ∈ decimal n, isAsciiDigit c = true := fun c => isAsciiDigit_of_mem_decimal
  have hvalue : Binary64.ofDecimal false n 0 = .roundQuotient false n 1 := by
    have hone : n * Binary64.pow10 0 = n := Nat.mul_one n
    rw [Binary64.ofDecimal, if_neg hn, if_neg (by decide), if_neg (by omega), if_pos (le_refl _),
      hone]
  rw [readReal?, plain_of_digits hdigits, joinDigits?_of_digits hdigits]
  simp [takeSign_of_digits hdigits, readWord?_of_digits hdigits (decimal_ne_nil n),
    readUnsigned?_of_digits hdigits (decimal_ne_nil n), digitsFrom_decimal, hvalue]

end DiagramBridge.Numeral
