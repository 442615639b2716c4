import DiagramBridge.Codec.Percent
import DiagramBridge.Codec.Utf8
import DiagramBridge.Proofs.Text.Search
import Mathlib.Tactic.Common

/-!
# Bytes and percent-encoding there and back

The bytes of a character are read as that character, and nothing is pending behind them. So what is
read of a row of bytes that begins with those of a character is the character and then what is read
of the rest, and a text comes back from its bytes. `feed` is the reading of some bytes without an end
behind them: with it the same facts serve readers that get their bytes from something else.

Reading the percent-encoded form of a text gives the text: a byte behind a percent sign goes to the
reader of bytes, and an unreserved character is its own byte. Between two characters that reader has
nothing pending, so the characters come back one by one.
-/

namespace DiagramBridge.Codec.Utf8

/-- Reads bytes that others follow. -/
def feed : Option Pending → List UInt8 → List (Option Char) × Option Pending
  | p, [] => ([], p)
  | p, b :: bs => ((step p b).1 ++ (feed (step p b).2 bs).1, (feed (step p b).2 bs).2)

theorem decodeFrom_append (p : Option Pending) (bs rest : List UInt8) :
    decodeFrom p (bs ++ rest) = (feed p bs).1 ++ decodeFrom (feed p bs).2 rest := by
  induction bs generalizing p with
  | nil => rfl
  | cons b bs ih => rw [List.cons_append, decodeFrom, ih, feed, List.append_assoc]

/-! ## The bytes of a character -/

theorem toNat_continuation (n : Nat) : (continuation n).toNat = 0x80 + n % 0x40 := by
  rw [continuation, UInt8.toNat_ofNat']
  omega

/-- A byte that continues a character adds its six bits to the value. -/
theorem feed_continuation {missing low high value n : Nat} (hlow : low ≤ 0x80 + n % 0x40)
    (hhigh : 0x80 + n % 0x40 ≤ high) (bs : List UInt8) :
    feed (some ⟨missing + 1, low, high, value⟩) (continuation n :: bs) =
      feed (some { missing, value := value * 0x40 + n % 0x40 }) bs := by
  have hbits : (0x80 + n % 0x40) % 0x40 = n % 0x40 := by omega
  rw [feed, step]
  simp only [toNat_continuation, hbits]
  rw [if_pos ⟨hlow, hhigh⟩]
  rfl

/-- The last byte of a character. -/
theorem feed_last {low high value n : Nat} (hlow : low ≤ 0x80 + n % 0x40)
    (hhigh : 0x80 + n % 0x40 ≤ high) :
    feed (some ⟨0, low, high, value⟩) [continuation n] =
      ([some (Char.ofNat (value * 0x40 + n % 0x40))], none) := by
  have hbits : (0x80 + n % 0x40) % 0x40 = n % 0x40 := by omega
  rw [feed, step]
  simp only [toNat_continuation, hbits]
  rw [if_pos ⟨hlow, hhigh⟩]
  rfl

theorem feed_whole {b : UInt8} {c : Char} (h : lead b = .whole c) :
    feed none [b] = ([some c], none) := by
  rw [feed, step, start, h]
  rfl

theorem feed_begun {b : UInt8} {p : Pending} (h : lead b = .begun p) (bs : List UInt8) :
    feed none (b :: bs) = feed (some p) bs := by
  rw [feed, step, start, h]
  rfl

theorem lead_one {n : Nat} (h : n < 0x80) : lead (UInt8.ofNat n) = .whole (Char.ofNat n) := by
  have hn : (UInt8.ofNat n).toNat = n := by
    rw [UInt8.toNat_ofNat']
    omega
  simp only [lead, hn, if_pos h]

theorem lead_two {n : Nat} (hlow : 0x80 ≤ n) (hhigh : n < 0x800) :
    lead (UInt8.ofNat (0xC0 + n / 0x40)) = .begun { missing := 0, value := n / 0x40 } := by
  have hn : (UInt8.ofNat (0xC0 + n / 0x40)).toNat = 0xC0 + n / 0x40 := by
    rw [UInt8.toNat_ofNat']
    omega
  have hvalue : 0xC0 + n / 0x40 - 0xC0 = n / 0x40 := by omega
  simp only [lead, hn]
  rw [if_neg (by omega), if_neg (by omega), if_pos (by omega), hvalue]

/-- The first of three bytes leaves a range for the second one that holds what comes there. The
range is smaller after two of these bytes, which begin forms that are too long, and surrogates. -/
theorem lead_three {n : Nat} (hlow : 0x800 ≤ n) (hhigh : n < 0x10000)
    (hvalid : n < 0xD800 ∨ 0xDFFF < n) :
    ∃ low high, lead (UInt8.ofNat (0xE0 + n / 0x1000)) =
        .begun { missing := 1, low, high, value := n / 0x1000 } ∧
      low ≤ 0x80 + n / 0x40 % 0x40 ∧ 0x80 + n / 0x40 % 0x40 ≤ high := by
  have hn : (UInt8.ofNat (0xE0 + n / 0x1000)).toNat = 0xE0 + n / 0x1000 := by
    rw [UInt8.toNat_ofNat']
    omega
  have hvalue : 0xE0 + n / 0x1000 - 0xE0 = n / 0x1000 := by omega
  simp only [lead, hn]
  rw [if_neg (by omega), if_neg (by omega), if_neg (by omega), hvalue]
  by_cases hzero : n / 0x1000 = 0
  · refine ⟨0xA0, 0xBF, ?_, by omega, by omega⟩
    rw [if_pos (by omega), hzero]
  rw [if_neg (by omega)]
  by_cases hsurrogate : n / 0x1000 = 0xD
  · refine ⟨0x80, 0x9F, ?_, by omega, by omega⟩
    rw [if_pos (by omega)]
  · refine ⟨0x80, 0xBF, ?_, by omega, by omega⟩
    rw [if_neg (by omega), if_pos (by omega)]

theorem lead_four {n : Nat} (hlow : 0x10000 ≤ n) (hhigh : n < 0x110000) :
    ∃ low high, lead (UInt8.ofNat (0xF0 + n / 0x40000)) =
        .begun { missing := 2, low, high, value := n / 0x40000 } ∧
      low ≤ 0x80 + n / 0x1000 % 0x40 ∧ 0x80 + n / 0x1000 % 0x40 ≤ high := by
  have hn : (UInt8.ofNat (0xF0 + n / 0x40000)).toNat = 0xF0 + n / 0x40000 := by
    rw [UInt8.toNat_ofNat']
    omega
  have hvalue : 0xF0 + n / 0x40000 - 0xF0 = n / 0x40000 := by omega
  simp only [lead, hn]
  rw [if_neg (by omega), if_neg (by omega), if_neg (by omega), if_neg (by omega),
    if_neg (by omega), if_neg (by omega), hvalue]
  by_cases hzero : n / 0x40000 = 0
  · refine ⟨0x90, 0xBF, ?_, by omega, by omega⟩
    rw [if_pos (by omega), hzero]
  rw [if_neg (by omega)]
  by_cases hlast : n / 0x40000 = 4
  · refine ⟨0x80, 0x8F, ?_, by omega, by omega⟩
    rw [if_neg (by omega), if_pos (by omega)]
  · refine ⟨0x80, 0xBF, ?_, by omega, by omega⟩
    rw [if_pos (by omega)]

/-- A character has one byte or a first byte and continuations. -/
theorem feed_encodeChar (c : Char) : feed none (encodeChar c) = ([some c], none) := by
  have hvalid : c.toNat < 0xD800 ∨ 0xDFFF < c.toNat ∧ c.toNat < 0x110000 := c.valid
  have hc : Char.ofNat c.toNat = c := Char.ofNat_toNat c
  generalize hn : c.toNat = n at hvalid hc
  have hrange (m : Nat) : 0x80 ≤ 0x80 + m % 0x40 ∧ 0x80 + m % 0x40 ≤ 0xBF := by omega
  rw [encodeChar, hn]
  by_cases hone : n < 0x80
  · simp only [if_pos hone]
    rw [feed_whole (lead_one hone), hc]
  by_cases htwo : n < 0x800
  · have hvalue : n / 0x40 * 0x40 + n % 0x40 = n := by omega
    simp only [if_neg hone, if_pos htwo]
    rw [feed_begun (lead_two (by omega) htwo), feed_last (hrange n).1 (hrange n).2, hvalue, hc]
  by_cases hthree : n < 0x10000
  · have hvalue : (n / 0x1000 * 0x40 + n / 0x40 % 0x40) * 0x40 + n % 0x40 = n := by omega
    obtain ⟨low, high, hlead, hlow, hhigh⟩ := lead_three (n := n) (by omega) hthree (by omega)
    simp only [if_neg hone, if_neg htwo, if_pos hthree]
    rw [feed_begun hlead, feed_continuation hlow hhigh, feed_last (hrange n).1 (hrange n).2,
      hvalue, hc]
  · have hvalue : ((n / 0x40000 * 0x40 + n / 0x1000 % 0x40) * 0x40 + n / 0x40 % 0x40) * 0x40 +
        n % 0x40 = n := by omega
    obtain ⟨low, high, hlead, hlow, hhigh⟩ := lead_four (n := n) (by omega) (by omega)
    simp only [if_neg hone, if_neg htwo, if_neg hthree]
    rw [feed_begun hlead, feed_continuation hlow hhigh,
      feed_continuation (hrange (n / 0x40)).1 (hrange (n / 0x40)).2,
      feed_last (hrange n).1 (hrange n).2, hvalue, hc]

/-! ## Texts -/

theorem decode_encode (s : List Char) : decode (encode s) = s.map some := by
  induction s with
  | nil => rfl
  | cons c s ih =>
      rw [decode, encode] at ih
      rw [decode, encode, List.flatMap_cons, decodeFrom_append, feed_encodeChar, ih]
      rfl

theorem decode?_encode (s : List Char) : decode? (encode s) = some s := by
  rw [decode?, decode_encode]
  induction s with
  | nil => rfl
  | cons c s ih =>
      rw [List.map_cons, List.mapM_cons, ih]
      rfl

end DiagramBridge.Codec.Utf8

namespace DiagramBridge.Codec.Percent

open Text

theorem hexValue?_upperHexDigit {n : Nat} (h : n < 16) : hexValue? (upperHexDigit n) = some n := by
  have hall : ∀ n < 16, hexValue? (upperHexDigit n) = some n := by decide
  exact hall n h

/-- An encoded byte is read as the byte. -/
theorem decodeFrom_encodeByte (p : Option Utf8.Pending) (b : UInt8) (rest : List Char) :
    decodeFrom p (encodeByte b ++ rest) =
      Utf8.patch (Utf8.step p b).1 ++ decodeFrom (Utf8.step p b).2 rest := by
  have hb : b.toNat < 256 := b.toNat_lt
  have hvalue : 16 * (b.toNat / 16) + b.toNat % 16 = b.toNat := by omega
  rw [encodeByte, List.cons_append, List.cons_append, List.cons_append, List.nil_append, decodeFrom,
    hexValue?_upperHexDigit (by omega), hexValue?_upperHexDigit (by omega)]
  simp only [hvalue, UInt8.ofNat_toNat]

theorem decodeFrom_encodeBytes (p : Option Utf8.Pending) (bs : List UInt8) (rest : List Char) :
    decodeFrom p (bs.flatMap encodeByte ++ rest) =
      Utf8.patch (Utf8.feed p bs).1 ++ decodeFrom (Utf8.feed p bs).2 rest := by
  induction bs generalizing p with
  | nil => rfl
  | cons b bs ih =>
      rw [List.flatMap_cons, List.append_assoc, decodeFrom_encodeByte, ih, Utf8.feed, Utf8.patch,
        Utf8.patch, Utf8.patch, List.map_append, List.append_assoc]

theorem toNat_lt_of_isUnreserved {c : Char} (h : isUnreserved c = true) : c.toNat < 0x80 := by
  have hmarks : ∀ d ∈ "-_.!~*'()".toList, d.toNat < 0x80 := by decide
  simp only [isUnreserved, isAsciiLetter, isAsciiDigit, Bool.or_eq_true, Bool.and_eq_true,
    decide_eq_true_eq, List.contains_iff_mem, Char.le_def, UInt32.le_iff_toNat_le] at h
  rcases h with ((h | h) | h) | h
  · exact Nat.lt_of_le_of_lt h.2 (by decide)
  · exact Nat.lt_of_le_of_lt h.2 (by decide)
  · exact Nat.lt_of_le_of_lt h.2 (by decide)
  · exact hmarks c h

/-- An unreserved character is read as its own byte. -/
theorem decodeFrom_unreserved {c : Char} (h : isUnreserved c = true) (rest : List Char) :
    decodeFrom none (c :: rest) = c :: decodeFrom none rest := by
  have hpercent : c ≠ '%' := by
    rintro rfl
    exact absurd h (by decide)
  have hascii := toNat_lt_of_isUnreserved h
  have hstep : Utf8.step none (UInt8.ofNat c.toNat) = ([some c], none) := by
    have hfeed := Utf8.feed_encodeChar c
    simp only [Utf8.encodeChar, if_pos hascii, Utf8.feed, List.append_nil] at hfeed
    exact hfeed
  rw [decodeFrom, if_pos hascii, hstep]
  · rfl
  · rintro a b s rfl
    exact absurd rfl hpercent

theorem decodeFrom_encodeChar (c : Char) (rest : List Char) :
    decodeFrom none (encodeChar c ++ rest) = c :: decodeFrom none rest := by
  rw [encodeChar]
  by_cases h : isUnreserved c = true
  · rw [if_pos h, List.singleton_append, decodeFrom_unreserved h]
  · rw [if_neg h, decodeFrom_encodeBytes, Utf8.feed_encodeChar]
    rfl

theorem decode_encode (s : List Char) : decode (encode s) = s := by
  induction s with
  | nil => rfl
  | cons c s ih =>
      rw [decode, encode] at ih
      rw [decode, encode, List.flatMap_cons, decodeFrom_encodeChar, ih]

end DiagramBridge.Codec.Percent
