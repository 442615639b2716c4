import DiagramBridge.Diagram.Geometry
import DiagramBridge.Number.Digits
import DiagramBridge.Number.Numeral
import DiagramBridge.Proofs.Text.Search

/-!
# Decimal notation is read back

A number written in decimal has digits only and at least one of them, and reading the digits gives
the number again. So different numbers are written differently.

Any number is written with digits, signs, the point, and the letters of the exponent and of the words
for what is no finite number. None of them means anything in markup.
-/

namespace DiagramBridge

open Text

theorem decimal_ne_nil (n : Nat) : decimal n ≠ [] :=
  Nat.toDigits_ne_nil

theorem isAsciiDigit_of_mem_decimal {n : Nat} {c : Char} (h : c ∈ decimal n) :
    isAsciiDigit c = true := by
  have hdigit := Nat.isDigit_of_mem_toDigits (by decide) (by decide) h
  rw [Char.isDigit, Bool.and_eq_true, decide_eq_true_eq, decide_eq_true_eq] at hdigit
  rw [isAsciiDigit, Bool.and_eq_true, decide_eq_true_eq, decide_eq_true_eq]
  exact hdigit

/-- A number has no leading zeros. -/
theorem stops_zero_decimal {n : Nat} (h : n ≠ 0) : Stops (· == '0') (decimal n) := by
  induction n using Nat.strongRecOn with
  | ind n ih =>
      rw [decimal]
      by_cases hn : n < 10
      · have hall : ∀ d < 10, d ≠ 0 → (d.digitChar == '0') = false := by decide
        rw [Nat.toDigits_of_lt_base hn, stops_cons_iff]
        exact hall n hn h
      · rw [Nat.toDigits_of_base_le (by decide) (by omega)]
        exact (ih (n / 10) (by omega) (by omega)).append (decimal_ne_nil _)

theorem digitsFrom_decimal (n : Nat) : Numeral.digitsFrom 0 (decimal n) = n := by
  have h : Nat.ofDigitChars 10 (Nat.toDigits 10 n) 0 = n :=
    Nat.ofDigitChars_toDigits (by decide) (by decide)
  rwa [Nat.ofDigitChars_eq_foldl] at h

theorem decimal_injective {m n : Nat} (h : decimal m = decimal n) : m = n := by
  rw [← digitsFrom_decimal m, h, digitsFrom_decimal]

theorem decimalString_injective {m n : Nat} (h : decimalString m = decimalString n) : m = n :=
  decimal_injective (String.ofList_injective h)

theorem decimalInt_injective {m n : Int} (h : decimalInt m = decimalInt n) : m = n := by
  have hsign (k : Nat) (cs : List Char) : decimal k ≠ '-' :: cs := fun heq =>
    absurd (isAsciiDigit_of_mem_decimal (c := '-') (n := k) (by simp [heq])) (by decide)
  rw [decimalInt, decimalInt] at h
  split_ifs at h with hm hn hn
  · have hnat := decimal_injective (List.cons.inj h).2
    omega
  · exact absurd h.symm (hsign _ _)
  · exact absurd h (hsign _ _)
  · have hnat := decimal_injective h
    omega

@[simp] theorem toList_decimalString (n : Nat) : (decimalString n).toList = decimal n :=
  String.toList_ofList

theorem isWord_of_isAsciiDigit {c : Char} (h : isAsciiDigit c = true) : isWord c = true := by
  have hc := h
  rw [isAsciiDigit, Bool.and_eq_true, decide_eq_true_eq, decide_eq_true_eq] at hc
  have hascii : c.toNat < 0x80 := by
    have hle : c.toNat ≤ 57 := hc.2
    omega
  rw [isWord, if_pos hascii, h]
  simp

theorem isWord_of_mem_decimal {n : Nat} {c : Char} (h : c ∈ decimal n) : isWord c = true :=
  isWord_of_isAsciiDigit (isAsciiDigit_of_mem_decimal h)

/-! ## The characters of written numbers -/

/-- A character that a written number can have. -/
def isNumberChar (c : Char) : Bool :=
  isAsciiDigit c || "+-.aefin".toList.contains c

theorem isNumberChar_of_mem_decimal {n : Nat} {c : Char} (h : c ∈ decimal n) :
    isNumberChar c = true := by
  rw [isNumberChar, isAsciiDigit_of_mem_decimal h, Bool.true_or]

theorem isNumberChar_of_mem_decimalInt {n : Int} {c : Char} (h : c ∈ decimalInt n) :
    isNumberChar c = true := by
  rw [decimalInt] at h
  split at h
  · rcases List.mem_cons.1 h with rfl | h
    · decide
    · exact isNumberChar_of_mem_decimal h
  · exact isNumberChar_of_mem_decimal h

theorem all_isNumberChar_decimal (n : Nat) : (decimal n).all isNumberChar = true :=
  List.all_eq_true.2 fun _ => isNumberChar_of_mem_decimal

theorem Binary64.all_isNumberChar_layOut (negative : Bool) (d : Nat) (k : Int) :
    (layOut negative d k).all isNumberChar = true := by
  have hd := all_isNumberChar_decimal
  have htake : ∀ i, ((decimal d).take i).all isNumberChar = true := fun i =>
    List.all_eq_true.2 fun c hc => isNumberChar_of_mem_decimal (List.mem_of_mem_take hc)
  have hdrop : ∀ i, ((decimal d).drop i).all isNumberChar = true := fun i =>
    List.all_eq_true.2 fun c hc => isNumberChar_of_mem_decimal (List.mem_of_mem_drop hc)
  have hzeros : ∀ i, (List.replicate i '0').all isNumberChar = true := fun i =>
    List.all_eq_true.2 fun c hc => by
      rw [(List.mem_replicate.1 hc).2]
      decide
  have hmarks : isNumberChar '.' = true ∧ isNumberChar '0' = true ∧ isNumberChar '-' = true ∧
      isNumberChar '+' = true ∧ isNumberChar 'e' = true := by decide
  obtain ⟨hpoint, hzero, hminus, hplus, hexp⟩ := hmarks
  simp only [layOut]
  split_ifs <;>
    simp only [List.all_append, List.all_cons, List.all_nil, hd, htake, hdrop, hzeros, hpoint,
      hzero, hminus, hplus, hexp, Bool.and_true]

theorem Binary64.isNumberChar_of_mem_text {x : Binary64} {c : Char} (h : c ∈ x.text) :
    isNumberChar c = true := by
  cases x with
  | nan =>
      have hall : ∀ c ∈ "nan".toList, isNumberChar c = true := by decide
      exact hall c h
  | infinite negative =>
      have hall : ∀ b : Bool, ∀ c ∈ (if b then "-inf" else "inf").toList,
          isNumberChar c = true := by decide
      exact hall negative c h
  | finite negative m e =>
      rw [text] at h
      split at h
      · have hall : ∀ b : Bool, ∀ c ∈ (if b then "-0.0" else "0.0").toList,
            isNumberChar c = true := by decide
        exact hall negative c h
      · exact List.all_eq_true.1 (all_isNumberChar_layOut ..) c h

/-- The characters of a coordinate. -/
theorem Coord.isNumberChar_of_mem_text {x : Coord} {c : Char} (h : c ∈ x.text) :
    isNumberChar c = true := by
  rw [text] at h
  split at h
  · exact isNumberChar_of_mem_decimalInt h
  · exact Binary64.isNumberChar_of_mem_text h

end DiagramBridge
