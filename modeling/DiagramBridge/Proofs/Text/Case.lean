import DiagramBridge.Text.Case
import Mathlib.Tactic.SplitIfs

/-!
# What a change of case makes

The letters that a change of case makes all stand below the private characters, so a private
character of the changed text was in the text before. A capital sigma looks at its neighbours, but a
space or a semicolon ends the look: what stands behind a space is of no account for a word of ASCII
in front of it, and texts between semicolons change their case each on its own.
-/

namespace DiagramBridge.Text

/-- Where the private characters begin. -/
def firstPrivate : Nat := 0xF0000

theorem toNat_ofNat_le (n : Nat) : (Char.ofNat n).toNat ≤ n := by
  unfold Char.ofNat
  by_cases h : n.isValidChar
  · rw [dif_pos h]
    exact Nat.le_refl n
  · rw [dif_neg h]
    exact Nat.zero_le n

/-! ## The tables -/

/-- What a run moves stays below the place that its last character moves to. -/
theorem CaseRun.image?_le {run : CaseRun} {n m : Nat} (h : run.image? n = some m) :
    m ≤ (run.last + run.distance).toNat := by
  rw [CaseRun.image?] at h
  split_ifs at h with hn
  rw [← Option.some.inj h]
  omega

/-- A table of case mappings that lead to no private character. -/
structure IsPublic (specials : List (Nat × List Nat)) (runs : List CaseRun) : Prop where
  specials : ∀ special ∈ specials, ∀ n ∈ special.2, n < firstPrivate
  runs : ∀ run ∈ runs, (run.last + run.distance).toNat < firstPrivate

theorem isPublic_lower : IsPublic lowerSpecials lowerRuns :=
  ⟨by decide +kernel, by decide +kernel⟩

theorem isPublic_upper : IsPublic upperSpecials upperRuns :=
  ⟨by decide +kernel, by decide +kernel⟩

theorem eq_of_mem_mapCase {specials : List (Nat × List Nat)} {runs : List CaseRun} {c d : Char}
    (h : IsPublic specials runs) (hd : firstPrivate ≤ d.toNat) (hmem : d ∈ mapCase specials runs c) :
    d = c := by
  rw [mapCase] at hmem
  split at hmem
  · next ns hns =>
    obtain ⟨n, hn, rfl⟩ := List.mem_map.1 hmem
    have hlt : n < firstPrivate := by
      obtain ⟨before, after, hspecials, -⟩ := List.lookup_eq_some_iff.1 hns
      exact h.specials (c.toNat, ns) (by simp [hspecials]) n hn
    have := toNat_ofNat_le n
    omega
  · rw [List.mem_singleton] at hmem
    cases hrun : runs.findSome? (·.image? c.toNat) with
    | none => rw [hmem, hrun, Option.getD_none, Char.ofNat_toNat]
    | some n =>
        obtain ⟨run, hmemrun, himage⟩ := List.exists_of_findSome?_eq_some hrun
        have hle := CaseRun.image?_le himage
        have hlt := h.runs run hmemrun
        rw [hmem, hrun, Option.getD_some] at hd
        have := toNat_ofNat_le n
        omega

/-! ## Letters of ASCII -/

theorem asciiLower_lt {c : Char} (h : c.toNat < 0x80) : (asciiLower c).toNat < firstPrivate := by
  have hle := toNat_ofNat_le (c.toNat + 32)
  rw [asciiLower, firstPrivate]
  split_ifs
  · omega
  · omega

theorem asciiUpper_lt {c : Char} (h : c.toNat < 0x80) : (asciiUpper c).toNat < firstPrivate := by
  have hle := toNat_ofNat_le (c.toNat - 32)
  rw [asciiUpper, firstPrivate]
  split_ifs
  · omega
  · omega

/-! ## Texts -/

variable {s : List Char} {d : Char}

theorem mem_of_mem_upper (hd : firstPrivate ≤ d.toNat) (h : d ∈ upper s) : d ∈ s := by
  obtain ⟨c, hc, hmem⟩ := List.mem_flatMap.1 h
  split_ifs at hmem with hascii
  · have := asciiUpper_lt hascii
    rw [List.mem_singleton.1 hmem] at hd
    omega
  · rwa [eq_of_mem_mapCase isPublic_upper hd hmem]

theorem smallSigma_lt (isFinal : Bool) :
    (Char.ofNat (if isFinal then 0x3C2 else 0x3C3)).toNat < firstPrivate := by
  cases isFinal <;> decide

theorem mem_of_mem_lowerAfter (hd : firstPrivate ≤ d.toNat) {casedBefore : Bool}
    (h : d ∈ lowerAfter casedBefore s) : d ∈ s := by
  induction s generalizing casedBefore with
  | nil => exact h
  | cons c s ih =>
      rw [lowerAfter] at h
      by_cases hascii : c.toNat < 0x80
      · rw [if_pos hascii] at h
        rcases List.mem_cons.1 h with hfront | hrest
        · have hlt := asciiLower_lt hascii
          rw [hfront] at hd
          omega
        · exact List.mem_cons_of_mem c (ih hrest)
      rw [if_neg hascii] at h
      by_cases hsigma : c.toNat = 0x3A3
      · rw [if_pos hsigma] at h
        rcases List.mem_cons.1 h with hfront | hrest
        · have hlt := smallSigma_lt (casedBefore && !casedAhead s)
          rw [hfront] at hd
          omega
        · exact List.mem_cons_of_mem c (ih hrest)
      · rw [if_neg hsigma] at h
        rcases List.mem_append.1 h with hfront | hrest
        · rw [eq_of_mem_mapCase isPublic_lower hd hfront]
          exact List.mem_cons_self
        · exact List.mem_cons_of_mem c (ih hrest)

theorem mem_of_mem_lower (hd : firstPrivate ≤ d.toNat) (h : d ∈ lower s) : d ∈ s :=
  mem_of_mem_lowerAfter hd h

/-- The underscore has no case. -/
theorem underscore_mem_lowerAfter (h : '_' ∈ s) (casedBefore : Bool) :
    '_' ∈ lowerAfter casedBefore s := by
  induction s generalizing casedBefore with
  | nil => exact h
  | cons c s ih =>
      rw [lowerAfter]
      rcases List.mem_cons.1 h with rfl | hrest
      · rw [if_pos (by decide)]
        exact List.mem_cons_self
      · by_cases hascii : c.toNat < 0x80
        · rw [if_pos hascii]
          exact List.mem_cons_of_mem _ (ih hrest _)
        rw [if_neg hascii]
        by_cases hsigma : c.toNat = 0x3A3
        · rw [if_pos hsigma]
          exact List.mem_cons_of_mem _ (ih hrest _)
        · rw [if_neg hsigma]
          exact List.mem_append_right _ (ih hrest _)

theorem underscore_mem_lower (h : '_' ∈ s) : '_' ∈ lower s :=
  underscore_mem_lowerAfter h false

/-! ## Words of ASCII at the front -/

theorem isPrefix_append_congr {k s t u : List Char} (h : ∀ k', k' <:+ k → (k' <+: t ↔ k' <+: u)) :
    k <+: s ++ t ↔ k <+: s ++ u := by
  induction s generalizing k with
  | nil => exact h k List.suffix_rfl
  | cons c s ih =>
      cases k with
      | nil => exact iff_of_true List.nil_prefix List.nil_prefix
      | cons d k =>
          rw [List.cons_append, List.cons_append, List.cons_prefix_cons, List.cons_prefix_cons,
            ih fun k' hk' => h k' (hk'.trans (List.suffix_cons d k))]

/-- What stands behind a space is of no account for a word of ASCII at the front. A final sigma may
be another letter there, but it is none of ASCII in either case. -/
theorem isPrefix_lowerAfter_append {k rest : List Char} (hk : ∀ c ∈ k, c.toNat < 0x80 ∧ c ≠ ' ')
    (casedBefore : Bool) :
    k <+: lowerAfter casedBefore (s ++ ' ' :: rest) ↔ k <+: lowerAfter casedBefore s := by
  have hsmall (isFinal : Bool) : ¬ (Char.ofNat (if isFinal then 0x3C2 else 0x3C3)).toNat < 0x80 := by
    cases isFinal <;> decide
  induction s generalizing k casedBefore with
  | nil =>
      have hspace : asciiLower ' ' = ' ' := by decide
      cases k with
      | nil => exact iff_of_true List.nil_prefix List.nil_prefix
      | cons d k =>
          refine iff_of_false (fun hpre => ?_) (by simp [lowerAfter])
          rw [List.nil_append, lowerAfter, if_pos (by decide), hspace, List.cons_prefix_cons] at hpre
          exact (hk d List.mem_cons_self).2 hpre.1
  | cons c s ih =>
      rw [List.cons_append, lowerAfter, lowerAfter]
      by_cases hascii : c.toNat < 0x80
      · rw [if_pos hascii, if_pos hascii]
        cases k with
        | nil => exact iff_of_true List.nil_prefix List.nil_prefix
        | cons d k =>
            rw [List.cons_prefix_cons, List.cons_prefix_cons]
            exact and_congr_right fun _ => ih (fun e he => hk e (List.mem_cons_of_mem d he)) _
      rw [if_neg hascii, if_neg hascii]
      dsimp only
      by_cases hsigma : c.toNat = 0x3A3
      · rw [if_pos hsigma, if_pos hsigma]
        cases k with
        | nil => exact iff_of_true List.nil_prefix List.nil_prefix
        | cons d k =>
            have hd := (hk d List.mem_cons_self).1
            rw [List.cons_prefix_cons, List.cons_prefix_cons]
            exact iff_of_false (fun h => hsmall _ (h.1 ▸ hd)) fun h => hsmall _ (h.1 ▸ hd)
      · rw [if_neg hsigma, if_neg hsigma]
        exact isPrefix_append_congr fun k' hk' => ih (fun e he => hk e (hk'.subset he)) _

theorem isPrefix_lower_append {k rest : List Char} (hk : ∀ c ∈ k, c.toNat < 0x80 ∧ c ≠ ' ') :
    k <+: lower (s ++ ' ' :: rest) ↔ k <+: lower s :=
  isPrefix_lowerAfter_append hk false

/-! ## Texts between semicolons -/

/-- A semicolon has no case and is not passed over when the neighbours of a sigma are looked for. -/
theorem inRanges_semicolon : inRanges caseIgnorableRanges ';'.toNat = false ∧
    inRanges casedRanges ';'.toNat = false := by
  decide +kernel

theorem casedAhead_append_semicolon (s t : List Char) :
    casedAhead (s ++ ';' :: t) = casedAhead s := by
  induction s with
  | nil =>
      rw [List.nil_append, casedAhead, List.dropWhile_cons, inRanges_semicolon.1]
      exact inRanges_semicolon.2
  | cons c s ih =>
      rw [List.cons_append, casedAhead, casedAhead, List.dropWhile_cons, List.dropWhile_cons]
      by_cases hpassed : inRanges caseIgnorableRanges c.toNat = true
      · rw [if_pos hpassed, if_pos hpassed]
        exact ih
      · rw [if_neg hpassed, if_neg hpassed]

theorem lowerAfter_append_semicolon (casedBefore : Bool) (s t : List Char) :
    lowerAfter casedBefore (s ++ ';' :: t) = lowerAfter casedBefore s ++ ';' :: lower t := by
  induction s generalizing casedBefore with
  | nil =>
      have hsmall : asciiLower ';' = ';' := by decide
      have hletter : isAsciiLetter ';' = false := by decide
      rw [List.nil_append, lowerAfter, lowerAfter, if_pos (by decide), hsmall, hletter,
        inRanges_semicolon.1]
      rfl
  | cons c s ih =>
      rw [List.cons_append, lowerAfter, lowerAfter]
      by_cases hascii : c.toNat < 0x80
      · rw [if_pos hascii, if_pos hascii, ih, List.cons_append]
      rw [if_neg hascii, if_neg hascii]
      dsimp only
      by_cases hsigma : c.toNat = 0x3A3
      · rw [if_pos hsigma, if_pos hsigma, casedAhead_append_semicolon, ih, List.cons_append]
      · rw [if_neg hsigma, if_neg hsigma, ih, List.append_assoc]

/-- The parts of a text between semicolons change their case each on its own. -/
theorem lower_intercalate_semicolon (ts : List (List Char)) :
    lower (List.intercalate [';'] ts) = List.intercalate [';'] (ts.map lower) := by
  induction ts with
  | nil => rfl
  | cons t ts ih =>
      cases ts with
      | nil => simp
      | cons u ts =>
          rw [List.map_cons, List.map_cons, List.intercalate_cons_cons, List.intercalate_cons_cons,
            List.append_assoc, List.append_assoc, List.singleton_append, List.singleton_append,
            lower, lowerAfter_append_semicolon, ih, List.map_cons]
          rfl

end DiagramBridge.Text
