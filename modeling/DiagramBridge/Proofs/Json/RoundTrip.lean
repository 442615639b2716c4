import DiagramBridge.Json.Reader
import DiagramBridge.Json.Writer
import DiagramBridge.Proofs.Number.Digits
import DiagramBridge.Proofs.Text.Search

/-!
# JSON is read back

A value that is written with one item a line is read as the same value, whatever follows it that
does not continue a number. Escapes give back their characters, those of a pair of code units too,
and the fields of an object keep their order because their keys are distinct.

Of numbers it is asked that each one reads back by itself. Whole numbers do, up to the number of
digits that a reader accepts.
-/

namespace DiagramBridge.Json

open Text Numeral

variable (half : Nat → Char)

/-! ## Escapes -/

theorem hexValue?_hexDigit {n : Nat} (h : n < 16) : hexValue? (hexDigit n) = some n := by
  have hall : ∀ n < 16, hexValue? (hexDigit n) = some n := by decide
  exact hall n h

theorem hexQuad?_hexDigits {n : Nat} (h : n < 0x10000) (s : List Char) :
    hexQuad? (hexDigits 4 n ++ s) = some (n, s) := by
  have hvalue : ((n / 16 / 16 / 16 % 16 * 16 + n / 16 / 16 % 16) * 16 + n / 16 % 16) * 16 +
      n % 16 = n := by omega
  simp only [hexDigits, List.nil_append, List.cons_append, hexQuad?,
    hexValue?_hexDigit (Nat.mod_lt _ (by decide : 0 < 16)), Option.bind_eq_bind, Option.bind_some,
    hvalue]

theorem escape?_unit {n : Nat} (h : n < 0x10000) (s : List Char) :
    escape? half ('u' :: (hexDigits 4 n ++ s)) = some (unitChar half n s) := by
  rw [escape?, hexQuad?_hexDigits h, Option.map_some]

theorem lowHalf?_unitEscape {n : Nat} (hlow : 0xDC00 ≤ n) (hhigh : n < 0xE000) (s : List Char) :
    lowHalf? (unitEscape n ++ s) = some (n, s) := by
  rw [unitEscape, List.cons_append, List.cons_append, lowHalf?, hexQuad?_hexDigits (by omega)]
  simp [hlow, hhigh]

/-- A character of the basic plane is no half of a pair. -/
theorem unitChar_toNat {c : Char} (h : c.toNat < 0x10000) (s : List Char) :
    unitChar half c.toNat s = (c, s) := by
  have hvalid : c.toNat < 0xD800 ∨ 0xDFFF < c.toNat ∧ c.toNat < 0x110000 := c.valid
  have hnotHigh : ¬ (0xD800 ≤ c.toNat && c.toNat < 0xDC00) = true := by simp; omega
  have hnotLow : ¬ (0xDC00 ≤ c.toNat && c.toNat < 0xE000) = true := by simp; omega
  rw [unitChar, if_neg hnotHigh, if_neg hnotLow, Char.ofNat_toNat]

/-- A character beyond the basic plane comes back from its two halves. -/
theorem unitChar_pair {c : Char} (h : 0x10000 ≤ c.toNat) (s : List Char) :
    unitChar half (0xD800 + (c.toNat - 0x10000) / 0x400)
      (unitEscape (0xDC00 + (c.toNat - 0x10000) % 0x400) ++ s) = (c, s) := by
  have hvalid : c.toNat < 0xD800 ∨ 0xDFFF < c.toNat ∧ c.toNat < 0x110000 := c.valid
  have hhigh : (0xD800 ≤ 0xD800 + (c.toNat - 0x10000) / 0x400 &&
      0xD800 + (c.toNat - 0x10000) / 0x400 < 0xDC00) = true := by simp; omega
  have hvalue : 0x10000 + (0xD800 + (c.toNat - 0x10000) / 0x400 - 0xD800) * 0x400 +
      (0xDC00 + (c.toNat - 0x10000) % 0x400 - 0xDC00) = c.toNat := by omega
  rw [unitChar, if_pos hhigh, lowHalf?_unitEscape (by omega) (by omega)]
  simp only [hvalue, Char.ofNat_toNat]

/-! ## Texts -/

theorem textRest?_of_escape {s t : List Char} {c : Char} (h : escape? half s = some (c, t))
    (fuel : Nat) : textRest? half (fuel + 1) ('\\' :: s) =
      (textRest? half fuel t).map fun found => (c :: found.1, found.2) := by
  simp only [textRest?, h, Option.bind_eq_bind, Option.bind_some]
  cases textRest? half fuel t with
  | none => rfl
  | some found => rfl

theorem textRest?_of_shown {c : Char} (hquote : c ≠ '"') (hbackslash : c ≠ '\\')
    (hcontrol : 32 ≤ c.toNat) (s : List Char) (fuel : Nat) :
    textRest? half (fuel + 1) (c :: s) =
      (textRest? half fuel s).map fun found => (c :: found.1, found.2) := by
  rw [textRest?, if_neg (by omega)]
  · exact fun heq => hquote heq
  · exact fun heq => hbackslash heq

/-- A written character is read as the character. -/
theorem textRest?_charText (c : Char) (s : List Char) (fuel : Nat) :
    textRest? half (fuel + 1) (charText c ++ s) =
      (textRest? half fuel s).map fun found => (c :: found.1, found.2) := by
  rw [charText]
  split_ifs with hquote hbackslash hn hr ht hb hf hshown hbasic
  · rw [hquote]
    exact textRest?_of_escape half rfl fuel
  · rw [hbackslash]
    exact textRest?_of_escape half rfl fuel
  · rw [hn]
    exact textRest?_of_escape half rfl fuel
  · rw [hr]
    exact textRest?_of_escape half rfl fuel
  · rw [ht]
    exact textRest?_of_escape half rfl fuel
  · rw [hb]
    exact textRest?_of_escape half rfl fuel
  · rw [hf]
    exact textRest?_of_escape half rfl fuel
  · rw [Bool.and_eq_true, decide_eq_true_eq] at hshown
    exact textRest?_of_shown half hquote hbackslash hshown.1 s fuel
  · refine textRest?_of_escape half ?_ fuel
    exact (escape?_unit half hbasic s).trans (congrArg some (unitChar_toNat half hbasic s))
  · have hvalid : c.toNat < 0xD800 ∨ 0xDFFF < c.toNat ∧ c.toNat < 0x110000 := c.valid
    rw [List.append_assoc]
    refine textRest?_of_escape half ?_ fuel
    refine (escape?_unit half (by omega) _).trans (congrArg some ?_)
    exact unitChar_pair half (by omega) s

theorem length_le_flatMap_charText (s : List Char) : s.length ≤ (s.flatMap charText).length := by
  have hpos : ∀ c, 1 ≤ (charText c).length := by
    intro c
    rw [charText]
    split_ifs <;> simp [unitEscape]
  induction s with
  | nil => exact Nat.zero_le _
  | cons c s ih =>
      rw [List.flatMap_cons, List.length_append, List.length_cons, Nat.add_comm]
      exact Nat.add_le_add (hpos c) ih

theorem textRest?_flatMap_charText (s rest : List Char) {fuel : Nat} (h : s.length < fuel) :
    textRest? half fuel (s.flatMap charText ++ '"' :: rest) = some (s, rest) := by
  induction s generalizing fuel with
  | nil =>
      obtain ⟨fuel, rfl⟩ := Nat.exists_eq_add_of_lt h
      rw [List.flatMap_nil, List.nil_append, textRest?]
      simp
  | cons c s ih =>
      obtain ⟨fuel, rfl⟩ : ∃ k, fuel = k + 1 := ⟨fuel - 1, by omega⟩
      rw [List.flatMap_cons, List.append_assoc, textRest?_charText, ih (by simpa using h),
        Option.map_some]

/-- A written text is read as the text, with as many steps as there are characters. -/
theorem textRest?_strText (s : String) (rest : List Char) :
    textRest? half ((s.toList.flatMap charText ++ '"' :: rest).length + 1)
      (s.toList.flatMap charText ++ '"' :: rest) = some (s.toList, rest) := by
  refine textRest?_flatMap_charText half _ _ ?_
  have hlength := length_le_flatMap_charText s.toList
  rw [List.length_append]
  omega

/-! ## Numbers -/

/-- A character that can continue a number. -/
def isNumberPart (c : Char) : Bool :=
  isAsciiDigit c || "+-.eE".toList.contains c

theorem span_append {p : Char → Bool} {t : List Char} (ht : Stops p t) (s : List Char) :
    (s ++ t).span p = ((s.span p).1, (s.span p).2 ++ t) := by
  induction s with
  | nil =>
      rw [List.nil_append, List.span_eq_takeWhile_dropWhile, List.span_eq_takeWhile_dropWhile]
      cases t with
      | nil => rfl
      | cons c t =>
          have hc : p c = false := stops_cons_iff.1 ht
          simp [hc]
  | cons c s ih =>
      simp only [List.span_eq_takeWhile_dropWhile, Prod.mk.injEq] at ih ⊢
      by_cases hc : p c = true
      · simp [hc, ih.1, ih.2]
      · simp [hc]

/-- The sign of an exponent, and what follows it. -/
def signPart : List Char → List Char × List Char
  | '+' :: s => (['+'], s)
  | '-' :: s => (['-'], s)
  | s => ([], s)

theorem exponentPart_cons (c : Char) (s : List Char) : exponentPart (c :: s) =
    if c = 'e' || c = 'E' then
      if ((signPart s).2.span isAsciiDigit).1.isEmpty then ([], c :: s)
      else (c :: (signPart s).1 ++ ((signPart s).2.span isAsciiDigit).1,
        ((signPart s).2.span isAsciiDigit).2)
    else ([], c :: s) :=
  rfl

/-- Whether a number begins with a minus sign, and what follows it. -/
def minusPart : List Char → Bool × List Char
  | '-' :: s => (true, s)
  | s => (false, s)

/-- The digits before the point, and what follows them. -/
def wholePart : List Char → List Char × List Char
  | '0' :: s => (['0'], s)
  | s => s.span isAsciiDigit

/-- The number that is made of its parts. -/
def numberOf (negative : Bool) (whole fraction exponent : List Char) : Option Json :=
  if fraction.isEmpty && exponent.isEmpty then
    if whole.length > maxIntegerDigits then none
    else some (.int (Binary64.signed negative (digitsFrom 0 whole)))
  else (readUnsigned? negative (whole ++ fraction ++ exponent)).map .real

/-- A number is read part by part. -/
theorem number?_eq (s : List Char) : number? s =
    let m := minusPart s
    let w := wholePart m.2
    let f := fractionPart w.2
    let e := exponentPart f.2
    if w.1.isEmpty then none else (numberOf m.1 w.1 f.1 e.1).map (·, e.2) := by
  change (let m := minusPart s
    let w := wholePart m.2
    let f := fractionPart w.2
    let e := exponentPart f.2
    if w.1.isEmpty then none
    else if f.1.isEmpty && e.1.isEmpty then
      if w.1.length > maxIntegerDigits then none
      else some (Json.int (Binary64.signed m.1 (digitsFrom 0 w.1)), e.2)
    else (readUnsigned? m.1 (w.1 ++ f.1 ++ e.1)).bind fun x => some (.real x, e.2)) = _
  dsimp only
  split_ifs with hwhole hint hlong
  · rfl
  · rw [numberOf, if_pos hint, if_pos hlong, Option.map_none]
  · rw [numberOf, if_pos hint, if_neg hlong, Option.map_some]
  · rw [numberOf, if_neg hint, Option.map_map]
    cases readUnsigned? (minusPart s).1 _ with
    | none => rfl
    | some x => rfl

section

variable {t : List Char} (ht : Stops isNumberPart t)
include ht

theorem ne_cons_of_stops {c : Char} (hc : isNumberPart c = true) (s : List Char) : t ≠ c :: s := by
  rintro rfl
  exact ne_of_kind hc (stops_cons_iff.1 ht) rfl

theorem stops_isAsciiDigit : Stops isAsciiDigit t :=
  ht.mono fun _ hc => (Bool.or_eq_false_iff.1 hc).1

theorem fractionPart_append (s : List Char) :
    fractionPart (s ++ t) = ((fractionPart s).1, (fractionPart s).2 ++ t) := by
  have hdigits := stops_isAsciiDigit ht
  cases s with
  | nil =>
      rw [List.nil_append, fractionPart.eq_def]
      split
      · exact absurd rfl (ne_cons_of_stops ht (by decide) _)
      · rfl
  | cons c s =>
      by_cases hc : c = '.'
      · rw [hc, List.cons_append, fractionPart, fractionPart, span_append hdigits]
        dsimp only
        split_ifs <;> rfl
      · rw [List.cons_append, fractionPart.eq_2, fractionPart.eq_2]
        · rfl
        · exact fun _ heq => absurd (List.cons.inj heq).1 hc
        · exact fun _ heq => absurd (List.cons.inj heq).1 hc

theorem signPart_append (s : List Char) :
    signPart (s ++ t) = ((signPart s).1, (signPart s).2 ++ t) := by
  cases s with
  | nil =>
      rw [List.nil_append, signPart.eq_def]
      split
      · exact absurd rfl (ne_cons_of_stops ht (by decide) _)
      · exact absurd rfl (ne_cons_of_stops ht (by decide) _)
      · rfl
  | cons c s =>
      rw [List.cons_append, signPart.eq_def, signPart.eq_def (c :: s)]
      split
      · next heq =>
        obtain ⟨rfl, rfl⟩ := List.cons.inj heq
        rfl
      · next heq =>
        obtain ⟨rfl, rfl⟩ := List.cons.inj heq
        rfl
      · next hplus hminus =>
        split
        · next heq => exact absurd (by rw [(List.cons.inj heq).1]) (hplus (s ++ t))
        · next heq => exact absurd (by rw [(List.cons.inj heq).1]) (hminus (s ++ t))
        · rfl

theorem exponentPart_append (s : List Char) :
    exponentPart (s ++ t) = ((exponentPart s).1, (exponentPart s).2 ++ t) := by
  have hdigits := stops_isAsciiDigit ht
  cases s with
  | nil =>
      rw [List.nil_append, exponentPart.eq_def]
      split
      · next c s =>
        have he : c ≠ 'e' := by
          rintro rfl
          exact ne_cons_of_stops ht (by decide) s rfl
        have hE : c ≠ 'E' := by
          rintro rfl
          exact ne_cons_of_stops ht (by decide) s rfl
        rw [if_neg (by simp [he, hE])]
        rfl
      · rfl
  | cons c s =>
      rw [List.cons_append, exponentPart_cons, exponentPart_cons, signPart_append ht,
        span_append hdigits]
      dsimp only
      split_ifs <;> rfl

theorem minusPart_append (s : List Char) :
    minusPart (s ++ t) = ((minusPart s).1, (minusPart s).2 ++ t) := by
  cases s with
  | nil =>
      rw [List.nil_append, minusPart.eq_def]
      split
      · exact absurd rfl (ne_cons_of_stops ht (by decide) _)
      · rfl
  | cons c s =>
      by_cases hc : c = '-'
      · rw [hc]
        rfl
      · rw [List.cons_append, minusPart.eq_2, minusPart.eq_2]
        · rfl
        · exact fun _ heq => absurd (List.cons.inj heq).1 hc
        · exact fun _ heq => absurd (List.cons.inj heq).1 hc

theorem wholePart_append (s : List Char) :
    wholePart (s ++ t) = ((wholePart s).1, (wholePart s).2 ++ t) := by
  have hdigits := stops_isAsciiDigit ht
  cases s with
  | nil =>
      rw [List.nil_append, wholePart.eq_def]
      split
      · exact absurd rfl (ne_cons_of_stops ht (by decide) _)
      · simpa [wholePart] using span_append hdigits []
  | cons c s =>
      by_cases hc : c = '0'
      · rw [hc]
        rfl
      · rw [List.cons_append, wholePart.eq_2, wholePart.eq_2, ← List.cons_append,
          span_append hdigits]
        · exact fun _ heq => absurd (List.cons.inj heq).1 hc
        · exact fun _ heq => absurd (List.cons.inj heq).1 hc

/-- What follows a number, and cannot continue it, is left. -/
theorem number?_append (s : List Char) :
    number? (s ++ t) = (number? s).map fun found => (found.1, found.2 ++ t) := by
  simp only [number?_eq, minusPart_append ht, wholePart_append ht, fractionPart_append ht,
    exponentPart_append ht]
  split_ifs
  · rfl
  · rw [Option.map_map]
    rfl

end

/-- A number begins with a digit, or with a minus sign and a digit. -/
inductive BeginsNumber : List Char → Prop where
  | digit {d : Char} (h : isAsciiDigit d = true) (s : List Char) : BeginsNumber (d :: s)
  | minus {d : Char} (h : isAsciiDigit d = true) (s : List Char) : BeginsNumber ('-' :: d :: s)

theorem exists_digit_of_wholePart {s : List Char} (h : (wholePart s).1 ≠ []) :
    ∃ d rest, s = d :: rest ∧ isAsciiDigit d = true := by
  rw [wholePart.eq_def] at h
  split at h
  · exact ⟨_, _, rfl, by decide⟩
  · cases s with
    | nil => exact absurd rfl h
    | cons d s =>
        refine ⟨d, s, rfl, ?_⟩
        by_contra hd
        rw [List.span_eq_takeWhile_dropWhile, List.takeWhile_cons_of_neg hd] at h
        exact h rfl

theorem beginsNumber_of_number? {s : List Char} {found : Json × List Char}
    (h : number? s = some found) : BeginsNumber s := by
  rw [number?_eq] at h
  dsimp only at h
  split_ifs at h with hwhole
  obtain ⟨d, rest, hrest, hd⟩ := exists_digit_of_wholePart (mt List.isEmpty_iff.2 hwhole)
  rw [minusPart.eq_def] at hrest
  split at hrest
  · next t =>
    have ht : t = d :: rest := hrest
    rw [ht]
    exact .minus hd rest
  · have hs : s = d :: rest := hrest
    rw [hs]
    exact .digit hd rest

theorem BeginsNumber.ne_cons {s : List Char} (h : BeginsNumber s) {c : Char}
    (hdigit : isAsciiDigit c = false) (hminus : c ≠ '-') (rest : List Char) : s ≠ c :: rest := by
  rintro rfl
  cases h with
  | digit hd => exact ne_of_kind hd hdigit rfl
  | minus => exact hminus rfl

/-- What begins like a number is no word. -/
theorem BeginsNumber.word?_eq_none {s : List Char} (h : BeginsNumber s) : word? s = none := by
  have hne : ∀ {c d : Char}, isAsciiDigit d = true → isAsciiDigit c = false → (c == d) = false :=
    fun hd hc => beq_false_of_ne (ne_of_kind hd hc).symm
  cases h with
  | digit hd s =>
      simp [word?, List.isPrefixOf?, hne hd (by decide : isAsciiDigit 'n' = false),
        hne hd (by decide : isAsciiDigit 't' = false), hne hd (by decide : isAsciiDigit 'f' = false),
        hne hd (by decide : isAsciiDigit 'N' = false), hne hd (by decide : isAsciiDigit 'I' = false),
        hne hd (by decide : isAsciiDigit '-' = false)]
  | minus hd s => simp [word?, List.isPrefixOf?, hne hd (by decide : isAsciiDigit 'I' = false)]

/-! ### What is left of a text -/

theorem span_suffix (p : Char → Bool) (s : List Char) : (s.span p).2 <:+ s := by
  rw [List.span_eq_takeWhile_dropWhile]
  exact List.dropWhile_suffix p

theorem minusPart_suffix (s : List Char) : (minusPart s).2 <:+ s := by
  rw [minusPart.eq_def]
  split
  · exact List.suffix_cons _ _
  · exact List.suffix_refl _

theorem wholePart_suffix (s : List Char) : (wholePart s).2 <:+ s := by
  rw [wholePart.eq_def]
  split
  · exact List.suffix_cons _ _
  · exact span_suffix _ _

theorem fractionPart_suffix (s : List Char) : (fractionPart s).2 <:+ s := by
  rw [fractionPart.eq_def]
  split
  · dsimp only
    split_ifs
    · exact List.suffix_refl _
    · exact (span_suffix _ _).trans (List.suffix_cons _ _)
  · exact List.suffix_refl _

theorem signPart_suffix (s : List Char) : (signPart s).2 <:+ s := by
  rw [signPart.eq_def]
  split
  · exact List.suffix_cons _ _
  · exact List.suffix_cons _ _
  · exact List.suffix_refl _

theorem exponentPart_suffix (s : List Char) : (exponentPart s).2 <:+ s := by
  cases s with
  | nil => exact List.suffix_refl _
  | cons c s =>
      rw [exponentPart_cons]
      split_ifs
      · exact List.suffix_refl _
      · exact (span_suffix _ _).trans ((signPart_suffix s).trans (List.suffix_cons _ _))
      · exact List.suffix_refl _

theorem number?_suffix {s rest : List Char} {v : Json} (h : number? s = some (v, rest)) :
    rest <:+ s := by
  rw [number?_eq] at h
  dsimp only at h
  split_ifs at h
  obtain ⟨_, -, heq⟩ := Option.map_eq_some_iff.1 h
  rw [← (Prod.mk.inj heq).2]
  exact (exponentPart_suffix _).trans ((fractionPart_suffix _).trans
    ((wholePart_suffix _).trans (minusPart_suffix s)))

/-! ### Numbers by themselves -/

/-- A value is read back from the text that it is written in. -/
def ReadsBack (v : Json) : Prop :=
  read? v.indented = some v

theorem skipSpace_of_stops {s : List Char} (h : Stops isSpace s) : skipSpace s = s :=
  dropWhile_of_stops h

theorem value?_of_beginsNumber {s : List Char} (h : BeginsNumber s) (fuel : Nat) :
    value? half (fuel + 1) s = number? s := by
  rw [value?, h.word?_eq_none, Option.none_or]
  · exact h.ne_cons (by decide) (by decide)
  · exact h.ne_cons (by decide) (by decide)
  · exact h.ne_cons (by decide) (by decide)

theorem isSpace_eq_false_of_isNumberChar {c : Char} (h : isNumberChar c = true) :
    isSpace c = false := by
  by_contra hspace
  rw [Bool.not_eq_false] at hspace
  have hall : ∀ d ∈ [' ', '\t', '\n', '\r'], isNumberChar d = false := by decide
  rw [hall c (by simpa [isSpace, or_assoc] using hspace)] at h
  exact absurd h (by simp)

theorem wholePart_decimal (n : Nat) : wholePart (decimal n) = (decimal n, []) := by
  by_cases hn : n = 0
  · rw [hn]
    rfl
  · have hspan : (decimal n).span isAsciiDigit = (decimal n, []) := by
      simpa using span_append_of_stops (fun c => isAsciiDigit_of_mem_decimal) (stops_nil isAsciiDigit)
    rw [wholePart.eq_2, hspan]
    intro s heq
    have hstops := stops_zero_decimal hn
    rw [heq, stops_cons_iff] at hstops
    exact absurd hstops (by decide)

theorem minusPart_decimalInt (n : Int) :
    minusPart (decimalInt n) = (decide (n < 0), decimal n.natAbs) := by
  rw [decimalInt]
  split_ifs with hn
  · rw [decide_eq_true hn]
    rfl
  · rw [decide_eq_false hn, minusPart.eq_2]
    intro s heq
    have hminus : '-' ∈ decimal n.natAbs := by rw [heq]; simp
    exact absurd (isAsciiDigit_of_mem_decimal hminus) (by decide)

/-- A whole number reads back unless it has too many digits. -/
theorem readsBack_int {n : Int} (h : (decimal n.natAbs).length ≤ maxIntegerDigits) :
    ReadsBack (.int n) := by
  have hsigned : Binary64.signed (decide (n < 0)) n.natAbs = n := by
    rw [Binary64.signed]
    split_ifs with hn <;> rw [decide_eq_true_eq] at hn <;> omega
  have hnumber : number? (decimalInt n) = some (.int n, []) := by
    simp only [number?_eq, minusPart_decimalInt, wholePart_decimal]
    rw [if_neg (by simp [decimal_ne_nil])]
    simp [fractionPart, exponentPart, numberOf, digitsFrom_decimal, hsigned, Nat.not_lt.2 h]
  have hbegins := beginsNumber_of_number? hnumber
  have hstops : Stops isSpace (decimalInt n) := stops_of_forall fun c hc =>
    isSpace_eq_false_of_isNumberChar (isNumberChar_of_mem_decimalInt hc)
  have htext : (indented (.int n)).toList = decimalInt n := String.toList_ofList
  rw [ReadsBack, read?, readWith?, htext, skipSpace_of_stops hstops,
    value?_of_beginsNumber _ hbegins, hnumber]
  rfl

theorem readsBack_nan : ReadsBack (.real .nan) := by
  rw [ReadsBack, read?, readWith?, indented, String.toList_ofList]
  rfl

theorem readsBack_infinite (negative : Bool) : ReadsBack (.real (.infinite negative)) := by
  rw [ReadsBack, read?, readWith?, indented, String.toList_ofList]
  cases negative <;> rfl

/-- A number that reads back by itself is all that is read of its text. -/
theorem number?_of_readsBack {v : Json} (h : ReadsBack v)
    (hchars : ∀ c ∈ indentedText 0 v, isNumberChar c = true)
    (hword : ∀ rest, word? (indentedText 0 v) ≠ some (v, rest)) :
    number? (indentedText 0 v) = some (v, []) := by
  have hspace : ∀ c ∈ indentedText 0 v, isSpace c = false :=
    fun c hc => isSpace_eq_false_of_isNumberChar (hchars c hc)
  rw [ReadsBack, read?, readWith?, indented, String.toList_ofList,
    skipSpace_of_stops (stops_of_forall hspace)] at h
  simp only [Option.bind_eq_bind, Option.bind_eq_some_iff] at h
  obtain ⟨⟨v', rest⟩, hvalue, h⟩ := h
  split_ifs at h with hrest
  obtain rfl := Option.some.inj h
  have hnumber : number? (indentedText 0 v') = some (v', rest) := by
    have hhead : ∀ c r, isNumberChar c = false → indentedText 0 v' ≠ c :: r := by
      rintro c r hc heq
      rw [hchars c (by rw [heq]; simp)] at hc
      exact absurd hc (by simp)
    rw [value?, Option.or_eq_some_iff] at hvalue
    · rcases hvalue with hvalue | ⟨-, hvalue⟩
      · exact absurd hvalue (hword rest)
      · exact hvalue
    · exact fun r => hhead _ r (by decide)
    · exact fun r => hhead _ r (by decide)
    · exact fun r => hhead _ r (by decide)
  have hstops : Stops isSpace rest :=
    stops_of_forall fun c hc => hspace c ((number?_suffix hnumber).subset hc)
  rw [skipSpace_of_stops hstops, List.isEmpty_iff] at hrest
  rw [hnumber, hrest]

/-- The words stand for these values, and no whole or finite number is among them. -/
theorem mem_of_word? {s rest : List Char} {v : Json} (h : word? s = some (v, rest)) :
    v ∈ [null, bool true, bool false, real .nan, real (.infinite false), real (.infinite true)] := by
  rw [word?] at h
  obtain ⟨w, hw, h⟩ := List.exists_of_findSome?_eq_some h
  obtain ⟨_, -, heq⟩ := Option.map_eq_some_iff.1 h
  rw [← (Prod.mk.inj heq).1]
  simp only [List.mem_cons, List.not_mem_nil, or_false] at hw
  rcases hw with rfl | rfl | rfl | rfl | rfl | rfl <;> simp

theorem number?_decimalInt {n : Int} (h : ReadsBack (.int n)) :
    number? (decimalInt n) = some (.int n, []) := by
  refine number?_of_readsBack (v := .int n) h (fun c => isNumberChar_of_mem_decimalInt)
    fun rest hword => ?_
  simpa using mem_of_word? hword

theorem number?_text {negative : Bool} {m : Nat} {e : Int}
    (h : ReadsBack (.real (.finite negative m e))) :
    number? (Binary64.finite negative m e).text = some (.real (.finite negative m e), []) := by
  refine number?_of_readsBack (v := .real (.finite negative m e)) h
    (fun c hc => Binary64.isNumberChar_of_mem_text (x := .finite negative m e) hc) fun rest hword => ?_
  simpa using mem_of_word? hword

/-! ## Values -/

/-- A value whose objects have distinct keys and whose numbers read back. -/
inductive IsReadable : Json → Prop where
  | null : IsReadable .null
  | bool (b : Bool) : IsReadable (.bool b)
  | int {n : Int} (h : ReadsBack (.int n)) : IsReadable (.int n)
  | real {x : Binary64} (h : ReadsBack (.real x)) : IsReadable (.real x)
  | str (s : String) : IsReadable (.str s)
  | arr {items : List Json} (h : ∀ v ∈ items, IsReadable v) : IsReadable (.arr items)
  | obj {fields : List (String × Json)} (distinct : (fields.map Prod.fst).Nodup)
      (h : ∀ f ∈ fields, IsReadable f.2) : IsReadable (.obj fields)

/-- The text of a value begins with something that is neither white space nor a closing bracket. -/
def BeginsValue (s : List Char) : Prop :=
  ∃ c rest, s = c :: rest ∧ isSpace c = false ∧ c ≠ ']'

theorem BeginsNumber.beginsValue {s : List Char} (h : BeginsNumber s) : BeginsValue s := by
  have hdigit : ∀ {d : Char}, isAsciiDigit d = true → isSpace d = false ∧ d ≠ ']' := by
    intro d hd
    have hpart : isNumberChar d = true := by rw [isNumberChar, hd, Bool.true_or]
    refine ⟨isSpace_eq_false_of_isNumberChar hpart, ?_⟩
    rintro rfl
    exact absurd hd (by decide)
  cases h with
  | digit hd s => exact ⟨_, _, rfl, hdigit hd⟩
  | minus hd s => exact ⟨_, _, rfl, by decide⟩

theorem IsReadable.beginsValue {v : Json} (h : v.IsReadable) (level : Nat) :
    BeginsValue (indentedText level v) := by
  cases h with
  | null => exact ⟨_, _, rfl, by decide⟩
  | bool b => cases b <;> exact ⟨_, _, rfl, by decide⟩
  | int h => exact (beginsNumber_of_number? (number?_decimalInt h)).beginsValue
  | @real x h =>
      cases x with
      | nan => exact ⟨_, _, rfl, by decide⟩
      | infinite negative => cases negative <;> exact ⟨_, _, rfl, by decide⟩
      | finite negative m e => exact (beginsNumber_of_number? (number?_text h)).beginsValue
  | str s => exact ⟨_, _, rfl, by decide⟩
  | @arr items h => cases items <;> exact ⟨_, _, rfl, by decide⟩
  | @obj fields hdistinct h => cases fields <;> exact ⟨_, _, rfl, by decide⟩

/-! ### Between values -/

theorem skipSpace_newline (level : Nat) (s : List Char) :
    skipSpace (newline level ++ s) = skipSpace s := by
  have hspace : ∀ k, (List.replicate k ' ' ++ s).dropWhile isSpace = s.dropWhile isSpace := by
    intro k
    induction k with
    | zero => rfl
    | succ k ih =>
        rw [List.replicate_succ, List.cons_append, List.dropWhile_cons_of_pos (by decide), ih]
  rw [skipSpace, newline, List.cons_append, List.dropWhile_cons_of_pos (by decide), hspace, skipSpace]

theorem skipSpace_skipSpace (s : List Char) : skipSpace (skipSpace s) = skipSpace s :=
  skipSpace_of_stops (stops_dropWhile isSpace s)

theorem stops_newline (level : Nat) (s : List Char) : Stops isNumberPart (newline level ++ s) := by
  rw [newline, List.cons_append, stops_cons_iff]
  decide

theorem skipSpace_append {s : List Char} (h : BeginsValue s) (t : List Char) :
    skipSpace (s ++ t) = s ++ t := by
  obtain ⟨c, rest, rfl, hc, -⟩ := h
  exact skipSpace_of_stops (stops_cons_iff.2 hc)

/-- White space in front of the items of an array makes no difference. -/
theorem items?_skipSpace (fuel : Nat) (s : List Char) :
    items? half fuel (skipSpace s) = items? half fuel s := by
  cases fuel with
  | zero => rw [items?, items?]
  | succ fuel => rw [items?, items?, skipSpace_skipSpace]

theorem fields?_skipSpace (fuel : Nat) (s : List Char) :
    fields? half fuel (skipSpace s) = fields? half fuel s := by
  cases fuel with
  | zero => rw [fields?, fields?]
  | succ fuel => rw [fields?, fields?, skipSpace_skipSpace]

/-! ### Items and fields -/

/-- The text of a value is read as the value, in as many steps as it has characters, whatever follows
it that cannot continue a number. -/
def IsRead (v : Json) : Prop :=
  ∀ level fuel t, (indentedText level v).length ≤ fuel → Stops isNumberPart t →
    value? half fuel (indentedText level v ++ t) = some (v, t)

theorem items?_indentedItems {items : List Json} (hne : items ≠ [])
    (hbegins : ∀ v ∈ items, ∀ level, BeginsValue (indentedText level v))
    (hread : ∀ v ∈ items, IsRead half v) (level outer : Nat) (t : List Char) (fuel : Nat)
    (hfuel : (indentedItems level items).length < fuel) :
    items? half fuel (indentedItems level items ++ (newline outer ++ ']' :: t)) =
      some (items, t) := by
  induction items generalizing fuel with
  | nil => exact absurd rfl hne
  | cons v vs ih =>
      obtain ⟨fuel, rfl⟩ : ∃ k, fuel = k + 1 := ⟨fuel - 1, by omega⟩
      have hv := hread v (by simp)
      have hskip : ∀ rest, skipSpace (newline level ++ indentedText level v ++ rest) =
          indentedText level v ++ rest := by
        intro rest
        rw [List.append_assoc, skipSpace_newline, skipSpace_append (hbegins v (by simp) level)]
      cases vs with
      | nil =>
          rw [indentedItems, List.length_append] at hfuel
          rw [indentedItems, items?, hskip, hv level fuel _ (by omega) (stops_newline outer _)]
          simp only [Option.bind_eq_bind, Option.bind_some, skipSpace_newline,
            skipSpace_of_stops (stops_cons_iff.2 (by decide : isSpace ']' = false))]
      | cons w ws =>
          have hrest := ih (by simp) (fun u hu => hbegins u (by simp [hu]))
            (fun u hu => hread u (by simp [hu])) fuel
          rw [indentedItems, List.length_append, List.length_append, List.length_cons] at hfuel
          · have hcomma : Stops isNumberPart (',' :: indentedItems level (w :: ws) ++
                (newline outer ++ ']' :: t)) := stops_cons_iff.2 (by decide)
            rw [indentedItems, List.append_assoc _ (',' :: _), items?, hskip,
              hv level fuel _ (by omega) hcomma]
            · simp only [Option.bind_eq_bind, Option.bind_some, List.cons_append,
                skipSpace_of_stops (stops_cons_iff.2 (by decide : isSpace ',' = false)),
                hrest (by omega)]
            · simp
          · simp

/-- A field is read, and what follows its value tells whether there are more. -/
theorem fields?_field {v : Json} (level : Nat) (hbegins : BeginsValue (indentedText level v))
    (hread : IsRead half v) (k : String) {fuel : Nat}
    (hfuel : (indentedText level v).length ≤ fuel) {s t : List Char} (ht : Stops isNumberPart t) :
    (skipSpace t = ',' :: s → fields? half (fuel + 1)
        (newline level ++ strText k ++ ": ".toList ++ indentedText level v ++ t) =
      (fields? half fuel s).map fun found => ((k, v) :: found.1, found.2)) ∧
    (skipSpace t = '\x7d' :: s → fields? half (fuel + 1)
        (newline level ++ strText k ++ ": ".toList ++ indentedText level v ++ t) =
      some ([(k, v)], s)) := by
  have htext : skipSpace (newline level ++ strText k ++ ": ".toList ++ indentedText level v ++ t) =
      '"' :: (k.toList.flatMap charText ++ '"' :: (':' :: ' ' :: (indentedText level v ++ t))) := by
    rw [List.append_assoc, List.append_assoc, List.append_assoc, skipSpace_newline, strText]
    simp only [List.cons_append, List.append_assoc]
    rw [skipSpace_of_stops (stops_cons_iff.2 (by decide))]
    rfl
  have hcolon : skipSpace (':' :: ' ' :: (indentedText level v ++ t)) =
      ':' :: ' ' :: (indentedText level v ++ t) :=
    skipSpace_of_stops (stops_cons_iff.2 (by decide))
  have hblank : skipSpace (' ' :: (indentedText level v ++ t)) = indentedText level v ++ t := by
    have h := skipSpace_append hbegins t
    rwa [skipSpace] at h ⊢
  refine ⟨fun hnext => ?_, fun hnext => ?_⟩
  · simp only [fields?, htext, textRest?_strText, Option.bind_eq_bind, Option.bind_some, hcolon,
      hblank, hread level fuel t hfuel ht, String.ofList_toList, hnext]
    exact Option.map_eq_bind.symm
  · simp only [fields?, htext, textRest?_strText, Option.bind_eq_bind, Option.bind_some, hcolon,
      hblank, hread level fuel t hfuel ht, String.ofList_toList, hnext]

theorem fields?_indentedFields {fields : List (String × Json)} (hne : fields ≠ [])
    (hbegins : ∀ f ∈ fields, ∀ level, BeginsValue (indentedText level f.2))
    (hread : ∀ f ∈ fields, IsRead half f.2) (level outer : Nat) (t : List Char) (fuel : Nat)
    (hfuel : (indentedFields level fields).length < fuel) :
    fields? half fuel (indentedFields level fields ++ (newline outer ++ '\x7d' :: t)) =
      some (fields, t) := by
  induction fields generalizing fuel with
  | nil => exact absurd rfl hne
  | cons f fs ih =>
      obtain ⟨k, v⟩ := f
      obtain ⟨fuel, rfl⟩ : ∃ k, fuel = k + 1 := ⟨fuel - 1, by omega⟩
      have hv : IsRead half v := hread (k, v) (by simp)
      have hhead : BeginsValue (indentedText level v) := hbegins (k, v) (by simp) level
      cases fs with
      | nil =>
          have hend : skipSpace (newline outer ++ '\x7d' :: t) = '\x7d' :: t := by
            rw [skipSpace_newline, skipSpace_of_stops (stops_cons_iff.2 (by decide))]
          rw [indentedFields, List.length_append] at hfuel
          exact (fields?_field half level hhead hv k (by omega) (stops_newline outer _)).2 hend
      | cons g gs =>
          have hrest := ih (by simp) (fun f hf => hbegins f (by simp [hf]))
            (fun f hf => hread f (by simp [hf])) fuel
          rw [indentedFields, List.length_append, List.length_append, List.length_cons] at hfuel
          · have hcomma : Stops isNumberPart (',' :: (indentedFields level (g :: gs) ++
                (newline outer ++ '\x7d' :: t))) := stops_cons_iff.2 (by decide)
            have hnext := skipSpace_of_stops (s := ',' :: (indentedFields level (g :: gs) ++
                (newline outer ++ '\x7d' :: t))) (stops_cons_iff.2 (by decide))
            rw [indentedFields, List.append_assoc _ (',' :: _), List.cons_append,
              (fields?_field half level hhead hv k (by omega) hcomma).1 hnext, hrest (by omega),
              Option.map_some]
            simp
          · simp

/-! ### Objects -/

theorem setField_of_new {fields : List (String × Json)} {k : String} (v : Json)
    (h : k ∉ fields.map Prod.fst) : setField fields k v = fields ++ [(k, v)] := by
  induction fields with
  | nil => rfl
  | cons f fs ih =>
      obtain ⟨k', v'⟩ := f
      rw [List.map_cons, List.mem_cons, not_or] at h
      rw [setField, if_neg (Ne.symm h.1), ih h.2, List.cons_append]

/-- Fields with distinct keys are kept as they are. -/
theorem ofFields_of_nodup {fields : List (String × Json)} (h : (fields.map Prod.fst).Nodup) :
    ofFields fields = .obj fields := by
  have hrun : ∀ (fs acc : List (String × Json)), ((acc ++ fs).map Prod.fst).Nodup →
      fs.foldl (fun acc f => setField acc f.1 f.2) acc = acc ++ fs := by
    intro fs
    induction fs with
    | nil => exact fun acc _ => (List.append_nil acc).symm
    | cons f fs ih =>
        intro acc hacc
        have hnew : f.1 ∉ acc.map Prod.fst := by
          rw [List.map_append, List.map_cons, List.nodup_append] at hacc
          exact fun hmem => hacc.2.2 f.1 hmem f.1 (by simp) rfl
        rw [List.foldl_cons, setField_of_new f.2 hnew, ih, List.append_assoc, List.singleton_append]
        rwa [List.append_assoc, List.singleton_append]
  rw [ofFields, hrun fields [] h, List.nil_append]

/-! ### All values -/

theorem value?_of_number? {s t : List Char} {v : Json} (h : number? s = some (v, []))
    (ht : Stops isNumberPart t) (fuel : Nat) : value? half (fuel + 1) (s ++ t) = some (v, t) := by
  have hnumber : number? (s ++ t) = some (v, t) := by
    rw [number?_append ht, h, Option.map_some, List.nil_append]
  rw [value?_of_beginsNumber half (beginsNumber_of_number? hnumber), hnumber]

/-- The text of a value has a character, so there is a step to begin with. -/
theorem isRead_of_succ {v : Json} (hbegins : ∀ level, BeginsValue (indentedText level v))
    (h : ∀ level fuel t, (indentedText level v).length ≤ fuel + 1 → Stops isNumberPart t →
      value? half (fuel + 1) (indentedText level v ++ t) = some (v, t)) : IsRead half v := by
  intro level fuel t hfuel ht
  obtain ⟨c, rest, heq, -, -⟩ := hbegins level
  have hpos : 1 ≤ fuel := by
    rw [heq, List.length_cons] at hfuel
    omega
  obtain ⟨fuel, rfl⟩ := Nat.exists_eq_add_of_le' hpos
  exact h level fuel t hfuel ht

theorem value?_strText (s : String) (fuel : Nat) (t : List Char) :
    value? half (fuel + 1) (strText s ++ t) = some (.str s, t) := by
  have htext : strText s ++ t = '"' :: (s.toList.flatMap charText ++ '"' :: t) := by
    rw [strText, List.cons_append, List.cons_append, List.append_assoc, List.singleton_append]
  rw [htext, value?, textRest?_strText, Option.map_some]
  exact congrArg (fun text => some (Json.str text, t)) String.ofList_toList

/-- Behind the white space in front of it, the first item begins. -/
theorem exists_skipSpace_indentedItems {v : Json} {level : Nat}
    (hbegins : BeginsValue (indentedText level v)) (vs : List Json) (t : List Char) :
    ∃ c rest, skipSpace (indentedItems level (v :: vs) ++ t) = c :: rest ∧ c ≠ ']' := by
  obtain ⟨c, s, hhead, hspace, hbracket⟩ := hbegins
  have hskip : ∀ r, skipSpace (newline level ++ indentedText level v ++ r) = c :: (s ++ r) := by
    intro r
    rw [hhead, List.append_assoc, skipSpace_newline, List.cons_append,
      skipSpace_of_stops (stops_cons_iff.2 hspace)]
  cases vs with
  | nil => exact ⟨c, _, hskip t, hbracket⟩
  | cons w ws =>
      rw [indentedItems, List.append_assoc _ (',' :: _)]
      · exact ⟨c, _, hskip _, hbracket⟩
      · simp

theorem value?_items {items : List Json}
    (hbegins : ∀ v ∈ items, ∀ level, BeginsValue (indentedText level v))
    (hread : ∀ v ∈ items, IsRead half v) {level fuel : Nat} (t : List Char)
    (hfuel : (indentedText level (.arr items)).length ≤ fuel + 1) :
    value? half (fuel + 1) (indentedText level (.arr items) ++ t) = some (.arr items, t) := by
  cases items with
  | nil => rfl
  | cons v vs =>
      have htext : indentedText level (.arr (v :: vs)) ++ t =
          '[' :: (indentedItems (level + 1) (v :: vs) ++ (newline level ++ ']' :: t)) := by
        simp [indentedText]
      have hitems := items?_indentedItems half (by simp) hbegins hread (level + 1) level t
        fuel (by simp [indentedText] at hfuel; omega)
      obtain ⟨c, rest, hskip, hbracket⟩ := exists_skipSpace_indentedItems
        (hbegins v (by simp) (level + 1)) vs (newline level ++ ']' :: t)
      rw [← items?_skipSpace, hskip] at hitems
      rw [htext, value?, hskip]
      split
      · next heq => exact absurd (List.cons.inj heq).1 hbracket
      · rw [hitems]
        rfl

/-- Behind the white space in front of it, the key of the first field begins. -/
theorem exists_skipSpace_indentedFields (level : Nat) (f : String × Json)
    (fs : List (String × Json)) (t : List Char) :
    ∃ rest, skipSpace (indentedFields level (f :: fs) ++ t) = '"' :: rest := by
  have hskip : ∀ r, skipSpace (newline level ++ (strText f.1 ++ r)) =
      '"' :: (f.1.toList.flatMap charText ++ ['"'] ++ r) := by
    intro r
    rw [skipSpace_newline, strText, List.cons_append, List.cons_append,
      skipSpace_of_stops (stops_cons_iff.2 (by decide))]
  cases fs with
  | nil =>
      rw [indentedFields, List.append_assoc, List.append_assoc, List.append_assoc]
      exact ⟨_, hskip _⟩
  | cons g gs =>
      rw [indentedFields, List.append_assoc, List.append_assoc, List.append_assoc, List.append_assoc]
      · exact ⟨_, hskip _⟩
      · simp

theorem value?_fields {fields : List (String × Json)} (hdistinct : (fields.map Prod.fst).Nodup)
    (hbegins : ∀ f ∈ fields, ∀ level, BeginsValue (indentedText level f.2))
    (hread : ∀ f ∈ fields, IsRead half f.2) {level fuel : Nat} (t : List Char)
    (hfuel : (indentedText level (.obj fields)).length ≤ fuel + 1) :
    value? half (fuel + 1) (indentedText level (.obj fields) ++ t) = some (.obj fields, t) := by
  cases fields with
  | nil => rfl
  | cons f fs =>
      have htext : indentedText level (.obj (f :: fs)) ++ t =
          '\x7b' :: (indentedFields (level + 1) (f :: fs) ++ (newline level ++ '\x7d' :: t)) := by
        simp [indentedText]
      have hfields := fields?_indentedFields half (by simp) hbegins hread (level + 1) level t
        fuel (by simp [indentedText] at hfuel; omega)
      obtain ⟨rest, hskip⟩ := exists_skipSpace_indentedFields (level + 1) f fs
        (newline level ++ '\x7d' :: t)
      rw [← fields?_skipSpace, hskip] at hfields
      rw [htext, value?, hskip]
      split
      · next heq => exact absurd (List.cons.inj heq).1 (by decide)
      · rw [hfields, Option.map_some]
        exact congrArg (fun v => some (v, t)) (ofFields_of_nodup hdistinct)

/-- A written value is read as the value. -/
theorem IsReadable.isRead {v : Json} (h : v.IsReadable) : IsRead half v := by
  induction h with
  | null => exact isRead_of_succ half IsReadable.null.beginsValue fun _ _ _ _ _ => rfl
  | bool b =>
      refine isRead_of_succ half (IsReadable.bool b).beginsValue fun _ _ _ _ _ => ?_
      cases b <;> rfl
  | int h =>
      exact isRead_of_succ half (IsReadable.int h).beginsValue fun _ fuel t _ ht =>
        value?_of_number? half (number?_decimalInt h) ht fuel
  | @real x h =>
      refine isRead_of_succ half (IsReadable.real h).beginsValue fun _ fuel t _ ht => ?_
      cases x with
      | nan => rfl
      | infinite negative => cases negative <;> rfl
      | finite negative m e => exact value?_of_number? half (number?_text h) ht fuel
  | str s =>
      exact isRead_of_succ half (IsReadable.str s).beginsValue fun _ fuel t _ _ =>
        value?_strText half s fuel t
  | arr h ih =>
      exact isRead_of_succ half (IsReadable.arr h).beginsValue fun _ _ t hfuel _ =>
        value?_items half (fun v hv => (h v hv).beginsValue) ih t hfuel
  | obj hdistinct h ih =>
      exact isRead_of_succ half (IsReadable.obj hdistinct h).beginsValue fun _ _ t hfuel _ =>
        value?_fields half hdistinct (fun f hf => (h f hf).beginsValue) ih t hfuel

/-- **Round trip.** A value is read back from its text of many lines. -/
theorem readWith?_indented {v : Json} (h : v.IsReadable) : readWith? half v.indented = some v := by
  have hskip : skipSpace (indentedText 0 v) = indentedText 0 v := by
    simpa using skipSpace_append (h.beginsValue 0) []
  have hvalue := h.isRead half 0 ((indentedText 0 v).length + 1) [] (Nat.le_succ _) (stops_nil _)
  rw [List.append_nil] at hvalue
  rw [readWith?, indented, String.toList_ofList, hskip, hvalue]
  rfl

end DiagramBridge.Json
