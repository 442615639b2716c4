import DiagramBridge.Codec.Base64
import DiagramBridge.Proofs.Text.Search

/-!
# Base 64 there and back

The text of a row of bytes is a row of digits with equals signs behind it. `digitValues` are the
values of those digits, three bytes to four, and `paddingCount` is the number of the signs; reading
takes the two apart again and puts the values together to bytes.
-/

namespace DiagramBridge.Codec.Base64

open Text

/-- The values of the digits of a row of bytes. -/
def digitValues : List UInt8 → List Nat
  | [] => []
  | [a] => [a.toNat / 4, a.toNat % 4 * 16]
  | [a, b] => [a.toNat / 4, a.toNat % 4 * 16 + b.toNat / 16, b.toNat % 16 * 4]
  | a :: b :: c :: r =>
    a.toNat / 4 :: (a.toNat % 4 * 16 + b.toNat / 16) :: (b.toNat % 16 * 4 + c.toNat / 64) ::
      c.toNat % 64 :: digitValues r

/-- The number of equals signs behind the digits of a row of bytes. -/
def paddingCount : List UInt8 → Nat
  | [] => 0
  | [_] => 2
  | [_, _] => 1
  | _ :: _ :: _ :: r => paddingCount r

theorem encode_eq (bytes : List UInt8) :
    encode bytes = (digitValues bytes).map digit ++ List.replicate (paddingCount bytes) '=' := by
  induction bytes using encode.induct with
  | case1 => rfl
  | case2 a => rfl
  | case3 a b => rfl
  | case4 a b c r ih =>
      rw [encode, ih]
      rfl

theorem lt_of_mem_digitValues {bytes : List UInt8} {n : Nat} (h : n ∈ digitValues bytes) :
    n < 64 := by
  induction bytes using digitValues.induct with
  | case1 => simp [digitValues] at h
  | case2 a =>
      have ha := a.toNat_lt
      simp only [digitValues, List.mem_cons, List.not_mem_nil, or_false] at h
      omega
  | case3 a b =>
      have ha := a.toNat_lt
      have hb := b.toNat_lt
      simp only [digitValues, List.mem_cons, List.not_mem_nil, or_false] at h
      omega
  | case4 a b c r ih =>
      have ha := a.toNat_lt
      have hb := b.toNat_lt
      have hc := c.toNat_lt
      simp only [digitValues, List.mem_cons] at h
      rcases h with h | h | h | h | h
      · omega
      · omega
      · omega
      · omega
      · exact ih h

/-- The values put together are the bytes. -/
theorem bytesOf_digitValues (bytes : List UInt8) : bytesOf (digitValues bytes) = bytes := by
  have hofNat (n : Nat) (a : UInt8) (h : n = a.toNat) : UInt8.ofNat n = a := by
    rw [h, UInt8.ofNat_toNat]
  induction bytes using digitValues.induct with
  | case1 => rfl
  | case2 a =>
      have ha := a.toNat_lt
      rw [digitValues, bytesOf, hofNat _ a (by omega)]
  | case3 a b =>
      have ha := a.toNat_lt
      have hb := b.toNat_lt
      rw [digitValues, bytesOf, hofNat _ a (by omega), hofNat _ b (by omega)]
  | case4 a b c r ih =>
      have ha := a.toNat_lt
      have hb := b.toNat_lt
      have hc := c.toNat_lt
      rw [digitValues, bytesOf, ih, hofNat _ a (by omega), hofNat _ b (by omega),
        hofNat _ c (by omega)]

/-- The equals signs fill up the last group of digits. -/
theorem isPadding_digitValues (bytes : List UInt8) :
    isPadding (digitValues bytes).length (paddingCount bytes) = true := by
  have hgroup (n k : Nat) (h : isPadding n k = true) : isPadding (n + 4) k = true := by
    rw [isPadding] at h ⊢
    rw [Nat.add_mod_right]
    split at h
    · simp
    · exact h
    · exact h
    · exact absurd h (by simp)
  induction bytes using digitValues.induct with
  | case1 => rfl
  | case2 a => rfl
  | case3 a b => rfl
  | case4 a b c r ih => exact hgroup _ _ ih

/-! ## Digits -/

theorem digitValue?_digit {n : Nat} (h : n < 64) : digitValue? (digit n) = some n := by
  have hall : ∀ n < 64, digitValue? (digit n) = some n := by
    have hdigits : digits = _ := String.toList_ofList
    simp only [digit, hdigits]
    decide +kernel
  exact hall n h

theorem mem_digits_digit {n : Nat} (h : n < 64) : digit n ∈ digits := by
  have hall : ∀ n < 64, digit n ∈ digits := by
    have hdigits : digits = _ := String.toList_ofList
    simp only [digit, hdigits]
    decide +kernel
  exact hall n h

/-- Every character of a written text is a digit or an equals sign. -/
theorem mem_encode {bytes : List UInt8} {c : Char} (h : c ∈ encode bytes) : c ∈ '=' :: digits := by
  rw [encode_eq, List.mem_append] at h
  rcases h with h | h
  · obtain ⟨n, hn, rfl⟩ := List.mem_map.1 h
    exact List.mem_cons_of_mem _ (mem_digits_digit (lt_of_mem_digitValues hn))
  · rw [List.eq_of_mem_replicate h]
    exact List.mem_cons_self

theorem mapM_digitValue?_map_digit {values : List Nat} (h : ∀ n ∈ values, n < 64) :
    (values.map digit).mapM digitValue? = some values := by
  induction values with
  | nil => rfl
  | cons n values ih =>
      rw [List.map_cons, List.mapM_cons, digitValue?_digit (h n (by simp)),
        ih fun m hm => h m (by simp [hm])]
      rfl

theorem decode?_encode (bytes : List UInt8) : decode? (encode bytes) = some bytes := by
  have hdigits : ∀ c ∈ (digitValues bytes).map digit, (c != '=') = true := by
    have hall : ∀ c ∈ digits, (c != '=') = true := by decide
    intro c hc
    obtain ⟨n, hn, rfl⟩ := List.mem_map.1 hc
    exact hall _ (mem_digits_digit (lt_of_mem_digitValues hn))
  have hsigns : ∀ c ∈ List.replicate (paddingCount bytes) '=', (c == '=') = true := by
    intro c hc
    rw [List.eq_of_mem_replicate hc]
    rfl
  have hstops : Stops (· != '=') (List.replicate (paddingCount bytes) '=') :=
    stops_of_forall fun c hc => by rw [bne, hsigns c hc]; rfl
  rw [decode?, encode_eq, span_append_of_stops hdigits hstops]
  simp only [List.length_map, List.length_replicate, isPadding_digitValues, Bool.and_true]
  rw [if_pos (List.all_eq_true.2 hsigns),
    mapM_digitValue?_map_digit fun n hn => lt_of_mem_digitValues hn, Option.map_some,
    bytesOf_digitValues]

end DiagramBridge.Codec.Base64
