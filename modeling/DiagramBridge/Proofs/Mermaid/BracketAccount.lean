import DiagramBridge.Proofs.Mermaid.Emptiness
import Mathlib.Data.List.Induction
import Mathlib.Data.List.Infix
import Mathlib.Order.Bounds.Basic

/-!
# The account of brackets

The check keeps a count for each kind of brackets and sets it back to zero at a stray one. What it
reports can be told without the count, from the excess of closing brackets over opening ones: the
excess is at a record just behind the stray brackets, so there are as many of them as the greatest
excess of a prefix, and what is open at the end is what is missing to that record.

`IsCounted` is the invariant that ties the count to the excess. It is kept by every character
(`IsCounted.step`), with the number of the line that the text before the character ends on.
-/

namespace DiagramBridge.Mermaid

open Text

/-! ## The excess of closing brackets -/

/-- By how many closing brackets outnumber opening ones of their kind. -/
def excess (b : Bracket) (s : List Char) : Int :=
  (s.count b.closer : Int) - s.count b.opener

/-- The last character of a text lifts the excess above what it was anywhere before. -/
def IsRecord (b : Bracket) (p : List Char) : Prop :=
  p ≠ [] ∧ ∀ q ∈ p.dropLast.inits, excess b q < excess b p

instance (b : Bracket) (p : List Char) : Decidable (IsRecord b p) :=
  inferInstanceAs (Decidable (_ ∧ _))

/-- The number of the line that a text ends on. -/
def lineNumber (p : List Char) : Nat :=
  p.count '\n' + 1

/-- The lines of the records, in order. -/
def recordLines (b : Bracket) (s : List Char) : List Nat :=
  (s.inits.filter (IsRecord b)).map lineNumber

theorem excess_append (b : Bracket) (s t : List Char) :
    excess b (s ++ t) = excess b s + excess b t := by
  simp only [excess, List.count_append, Int.natCast_add]
  omega

theorem excess_opener (b : Bracket) : excess b [b.opener] = -1 := by
  cases b <;> decide

theorem excess_closer (b : Bracket) : excess b [b.closer] = 1 := by
  cases b <;> decide

theorem excess_of_ne {b : Bracket} {c : Char} (hopener : c ≠ b.opener) (hcloser : c ≠ b.closer) :
    excess b [c] = 0 := by
  rw [excess, List.count_eq_zero_of_not_mem (by simpa using hcloser.symm),
    List.count_eq_zero_of_not_mem (by simpa using hopener.symm)]
  rfl

theorem isRecord_append_singleton (b : Bracket) (s : List Char) (c : Char) :
    IsRecord b (s ++ [c]) ↔ ∀ q, q <+: s → excess b q < excess b (s ++ [c]) := by
  rw [IsRecord, List.dropLast_concat]
  simp

theorem recordLines_nil (b : Bracket) : recordLines b [] = [] := by
  simp [recordLines, IsRecord]

theorem recordLines_append_singleton (b : Bracket) (s : List Char) (c : Char) :
    recordLines b (s ++ [c]) =
      recordLines b s ++ if IsRecord b (s ++ [c]) then [lineNumber (s ++ [c])] else [] := by
  have hinits : (s ++ [c]).inits = s.inits ++ [s ++ [c]] := by simp [List.inits_append]
  rw [recordLines, hinits, List.filter_append, List.map_append, recordLines]
  split_ifs with h <;> simp [h]

/-! ## One step of the count -/

namespace Issue

/-- The line of a stray bracket of the given kind. -/
def strayLine? (b : Bracket) : Issue → Option Nat
  | stray line b' => if b' = b then some line else none
  | _ => none

/-- The line and the number of unclosed brackets of the given kind. -/
def unclosedAt? (b : Bracket) : Issue → Option (Nat × Nat)
  | unclosed line count b' => if b' = b then some (line, count) else none
  | _ => none

end Issue

/-- The lines of the stray brackets of a kind. -/
def strayLines (b : Bracket) (issues : List Issue) : List Nat :=
  issues.filterMap (·.strayLine? b)

/-- The line and the number of what is reported as open, for the brackets of a kind. -/
def openCounts (b : Bracket) (issues : List Issue) : List (Nat × Nat) :=
  issues.filterMap (·.unclosedAt? b)

namespace BracketCount

theorem depth_setDepth_of_ne (s : BracketCount) {b b' : Bracket} (h : b' ≠ b) (n : Nat) :
    (s.setDepth b n).depth b' = s.depth b' :=
  if_neg h

theorem step_closer_of_pos (line : Nat) {s : BracketCount} {b : Bracket} {n : Nat}
    (h : s.depth b = n + 1) : step line s b.closer = s.setDepth b n := by
  have hstep := step_closer line s b n
  rwa [← h, setDepth_self] at hstep

theorem step_closer_of_zero (line : Nat) {s : BracketCount} {b : Bracket} (h : s.depth b = 0) :
    step line s b.closer = { s with issues := s.issues ++ [.stray line b] } := by
  have hopener : Bracket.all.find? (·.opener == b.closer) = none := by cases b <;> rfl
  have hcloser : Bracket.all.find? (·.closer == b.closer) = some b := by cases b <;> rfl
  simp only [step, hopener, hcloser, if_pos h]

/-- What a character does to the count of one kind of brackets. -/
inductive Change (b : Bracket) (line : Nat) (c : Char) (s t : BracketCount) : Prop where
  | opened (hc : c = b.opener) (hdepth : t.depth b = s.depth b + 1)
      (hissues : strayLines b t.issues = strayLines b s.issues)
  | closed (hc : c = b.closer) (hdepth : s.depth b = t.depth b + 1)
      (hissues : strayLines b t.issues = strayLines b s.issues)
  | stray (hc : c = b.closer) (hbefore : s.depth b = 0) (hdepth : t.depth b = 0)
      (hissues : strayLines b t.issues = strayLines b s.issues ++ [line])
  | none (hopener : c ≠ b.opener) (hcloser : c ≠ b.closer) (hdepth : t.depth b = s.depth b)
      (hissues : strayLines b t.issues = strayLines b s.issues)

theorem change_opener (b b' : Bracket) (line : Nat) (s : BracketCount) :
    Change b line b'.opener s (step line s b'.opener) := by
  rw [step_opener]
  by_cases hb : b' = b
  · subst hb
    exact .opened rfl (depth_setDepth ..) rfl
  · obtain ⟨hopener, hcloser⟩ : b'.opener ≠ b.opener ∧ b'.opener ≠ b.closer := by
      revert hb
      cases b <;> cases b' <;> decide
    exact .none hopener hcloser (depth_setDepth_of_ne s (Ne.symm hb) _) rfl

theorem change_closer (b b' : Bracket) (line : Nat) (s : BracketCount) :
    Change b line b'.closer s (step line s b'.closer) := by
  have hne (hb : b' ≠ b) : b'.closer ≠ b.opener ∧ b'.closer ≠ b.closer := by
    revert hb
    cases b <;> cases b' <;> decide
  cases hdepth : s.depth b' with
  | zero =>
      rw [step_closer_of_zero line hdepth]
      by_cases hb : b' = b
      · subst hb
        exact .stray rfl hdepth hdepth (by simp [strayLines, Issue.strayLine?])
      · exact .none (hne hb).1 (hne hb).2 rfl (by simp [strayLines, Issue.strayLine?, hb])
  | succ n =>
      rw [step_closer_of_pos line hdepth]
      by_cases hb : b' = b
      · subst hb
        exact .closed rfl (by rw [hdepth, depth_setDepth]) rfl
      · exact .none (hne hb).1 (hne hb).2 (depth_setDepth_of_ne s (Ne.symm hb) n) rfl

theorem change_step (b : Bracket) (line : Nat) (c : Char) (s : BracketCount) :
    Change b line c s (step line s c) := by
  by_cases hbracket : isBracket c = true
  · obtain ⟨b', -, hb'⟩ := List.any_eq_true.1 hbracket
    rw [Bool.or_eq_true, beq_iff_eq, beq_iff_eq] at hb'
    rcases hb' with rfl | rfl
    · exact change_opener b b' line s
    · exact change_closer b b' line s
  · rw [step_of_not_isBracket (by simpa using hbracket)]
    have hne : c ≠ b.opener ∧ c ≠ b.closer := by
      constructor <;> rintro rfl <;> exact hbracket (by cases b <;> decide)
    exact .none hne.1 hne.2 rfl rfl

end BracketCount

/-! ## The whole count -/

/-- The count at the end of a text. -/
def countOf (s : List Char) : BracketCount :=
  BracketCount.start.run ((lines s).zipIdx 1)

theorem BracketCount.run_append (s : BracketCount) (front back : List (List Char × Nat)) :
    s.run (front ++ back) = (s.run front).run back :=
  List.foldl_append

/-- Counting goes on with the next character, on the line that the text ends on. -/
theorem countOf_append_singleton (s : List Char) (c : Char) :
    countOf (s ++ [c]) = (countOf s).step (lineNumber s) c := by
  by_cases hc : c = '\n'
  · subst hc
    rw [step_of_not_isBracket (by decide), countOf, lines_append_lineFeed_end, List.zipIdx_append,
      BracketCount.run_append]
    rfl
  · obtain ⟨front, last, h⟩ := exists_lines_eq_append s
    have hnumber : lineNumber s = 1 + front.length := by
      rw [lineNumber, ← length_lines, h, List.length_append, List.length_singleton, Nat.add_comm]
    rw [countOf, countOf, lines_append_singleton hc h, h, List.zipIdx_append, List.zipIdx_append,
      BracketCount.run_append, BracketCount.run_append, hnumber]
    exact List.foldl_append

/-- The count of a kind of brackets at the end of a text: what is open is what the excess misses to
its greatest value, and the stray brackets are where it had a record. -/
structure IsCounted (b : Bracket) (s : List Char) (t : BracketCount) : Prop where
  depth : (t.depth b : Int) = (strayLines b t.issues).length - excess b s
  greatest : IsGreatest (excess b '' {p | p <+: s}) (strayLines b t.issues).length
  lines : strayLines b t.issues = recordLines b s

namespace IsCounted

variable {b : Bracket} {s : List Char} {t t' : BracketCount}

theorem image_prefixes_append_singleton (b : Bracket) (s : List Char) (c : Char) :
    excess b '' {p | p <+: s ++ [c]} =
      insert (excess b (s ++ [c])) (excess b '' {p | p <+: s}) := by
  have hprefixes : {p | p <+: s ++ [c]} = insert (s ++ [c]) {p | p <+: s} :=
    Set.ext fun p => List.prefix_concat_iff
  rw [hprefixes, Set.image_insert_eq]

theorem excess_le (h : IsCounted b s t) {p : List Char} (hp : p <+: s) :
    excess b p ≤ (strayLines b t.issues).length :=
  h.greatest.2 ⟨p, hp, rfl⟩

/-- Without a record no stray bracket is added. -/
theorem of_le (h : IsCounted b s t) {c : Char}
    (hle : excess b (s ++ [c]) ≤ (strayLines b t.issues).length)
    (hissues : strayLines b t'.issues = strayLines b t.issues)
    (hdepth : (t'.depth b : Int) = (strayLines b t.issues).length - excess b (s ++ [c])) :
    IsCounted b (s ++ [c]) t' where
  depth := by rw [hissues, hdepth]
  greatest := by
    rw [hissues, image_prefixes_append_singleton]
    refine ⟨Set.mem_insert_of_mem _ h.greatest.1, ?_⟩
    rintro n (rfl | hn)
    · exact hle
    · exact h.greatest.2 hn
  lines := by
    obtain ⟨p, hp, heq⟩ := h.greatest.1
    have hrecord : ¬ IsRecord b (s ++ [c]) := by
      rw [isRecord_append_singleton]
      intro hall
      have hlt : excess b p < excess b (s ++ [c]) := hall p hp
      omega
    rw [hissues, h.lines, recordLines_append_singleton, if_neg hrecord, List.append_nil]

/-- A record adds a stray bracket, on the line that the text before it ends on. -/
theorem of_record (h : IsCounted b s t)
    (hexcess : excess b (s ++ [b.closer]) = (strayLines b t.issues).length + 1)
    (hissues : strayLines b t'.issues = strayLines b t.issues ++ [lineNumber s])
    (hdepth : t'.depth b = 0) : IsCounted b (s ++ [b.closer]) t' := by
  have hlength : ((strayLines b t'.issues).length : Int) = excess b (s ++ [b.closer]) := by
    rw [hissues, hexcess, List.length_append, List.length_singleton, Int.natCast_add]
    rfl
  refine ⟨?_, ?_, ?_⟩
  · rw [hdepth, hlength]
    omega
  · rw [hlength, image_prefixes_append_singleton]
    refine ⟨Set.mem_insert _ _, ?_⟩
    rintro n (rfl | hn)
    · exact Int.le_refl _
    · have hle := h.greatest.2 hn
      omega
  · have hrecord : IsRecord b (s ++ [b.closer]) := by
      rw [isRecord_append_singleton]
      intro q hq
      have hle := h.excess_le hq
      omega
    have hcloser : b.closer ≠ '\n' := by cases b <;> decide
    have hline : lineNumber (s ++ [b.closer]) = lineNumber s := by
      rw [lineNumber, List.count_append, List.count_singleton, if_neg (by simpa using hcloser)]
      rfl
    rw [hissues, h.lines, recordLines_append_singleton, if_pos hrecord, hline]

/-- Every character keeps the invariant. -/
theorem step (h : IsCounted b s t) {c : Char} (hchange : t.Change b (lineNumber s) c t') :
    IsCounted b (s ++ [c]) t' := by
  have hs : excess b s ≤ (strayLines b t.issues).length := h.excess_le List.prefix_rfl
  have hbefore := h.depth
  cases hchange with
  | opened hc hdepth hissues =>
      subst hc
      have hexcess : excess b (s ++ [b.opener]) = excess b s - 1 := by
        rw [excess_append, excess_opener]
        rfl
      exact h.of_le (by omega) hissues (by omega)
  | closed hc hdepth hissues =>
      subst hc
      have hexcess : excess b (s ++ [b.closer]) = excess b s + 1 := by
        rw [excess_append, excess_closer]
      exact h.of_le (by omega) hissues (by omega)
  | stray hc hzero hdepth hissues =>
      subst hc
      have hexcess : excess b (s ++ [b.closer]) = excess b s + 1 := by
        rw [excess_append, excess_closer]
      exact h.of_record (by omega) hissues hdepth
  | none hopener hcloser hdepth hissues =>
      have hexcess : excess b (s ++ [c]) = excess b s := by
        rw [excess_append, excess_of_ne hopener hcloser, Int.add_zero]
      exact h.of_le (by omega) hissues (by omega)

end IsCounted

theorem isCounted_countOf (b : Bracket) (s : List Char) : IsCounted b s (countOf s) := by
  induction s using List.reverseRecOn with
  | nil =>
      refine ⟨rfl, ⟨⟨[], List.prefix_rfl, rfl⟩, ?_⟩, (recordLines_nil b).symm⟩
      rintro n ⟨p, hp, rfl⟩
      rw [List.prefix_nil.1 hp]
      exact Int.le_refl _
  | append_singleton s c ih =>
      rw [countOf_append_singleton]
      exact ih.step (BracketCount.change_step b (lineNumber s) c (countOf s))

/-! ## Nested brackets of one kind -/

/-- A text in which the brackets of one kind are nested, whatever stands between them. -/
inductive IsNested (b : Bracket) : List Char → Prop where
  | nil : IsNested b []
  | cons {c : Char} {s : List Char} (hopener : c ≠ b.opener) (hcloser : c ≠ b.closer)
      (hs : IsNested b s) : IsNested b (c :: s)
  | nest {s t : List Char} (hs : IsNested b s) (ht : IsNested b t) :
      IsNested b (b.opener :: (s ++ b.closer :: t))

/-- The closing brackets are never in excess, and they make up for all opening ones in the end. -/
structure IsLevel (b : Bracket) (s : List Char) : Prop where
  prefixes : ∀ p, p <+: s → excess b p ≤ 0
  total : excess b s = 0

theorem excess_cons (b : Bracket) (c : Char) (s : List Char) :
    excess b (c :: s) = excess b [c] + excess b s :=
  excess_append b [c] s

theorem isLevel_nil (b : Bracket) : IsLevel b [] := by
  refine ⟨fun p hp => ?_, rfl⟩
  rw [List.prefix_nil.1 hp]
  exact Int.le_refl _

/-- A character that is no bracket of the kind does not matter. -/
theorem isLevel_cons_iff {b : Bracket} {c : Char} (hopener : c ≠ b.opener) (hcloser : c ≠ b.closer)
    {s : List Char} : IsLevel b (c :: s) ↔ IsLevel b s := by
  have hfront (w : List Char) : excess b (c :: w) = excess b w := by
    rw [excess_cons, excess_of_ne hopener hcloser, Int.zero_add]
  constructor
  · intro h
    refine ⟨fun p hp => ?_, by rw [← hfront, h.total]⟩
    rw [← hfront]
    exact h.prefixes _ (List.cons_prefix_cons.2 ⟨rfl, hp⟩)
  · intro h
    refine ⟨fun p hp => ?_, by rw [hfront, h.total]⟩
    rcases List.prefix_cons_iff.1 hp with rfl | ⟨q, rfl, hq⟩
    · exact Int.le_refl _
    · rw [hfront]
      exact h.prefixes q hq

/-- Brackets around a level text make up for each other, so what follows them is level or not. -/
theorem isLevel_nest_iff {b : Bracket} {u v : List Char} (hu : IsLevel b u) :
    IsLevel b (b.opener :: (u ++ b.closer :: v)) ↔ IsLevel b v := by
  have hfront (w : List Char) : excess b (b.opener :: (u ++ b.closer :: w)) = excess b w := by
    rw [excess_cons, excess_append, excess_cons b b.closer, excess_opener, excess_closer, hu.total]
    omega
  constructor
  · intro h
    refine ⟨fun p hp => ?_, by rw [← hfront, h.total]⟩
    rw [← hfront]
    apply h.prefixes
    rw [List.cons_prefix_cons, List.prefix_append_right_inj, List.cons_prefix_cons]
    exact ⟨rfl, rfl, hp⟩
  · intro h
    refine ⟨fun p hp => ?_, by rw [hfront, h.total]⟩
    -- A prefix ends in front of the brackets, between them, or behind them.
    rcases List.prefix_cons_iff.1 hp with rfl | ⟨q, rfl, hq⟩
    · exact Int.le_refl _
    rcases isPrefix_append_cases hq with hq | ⟨r, rfl, hr⟩
    · have hle := hu.prefixes q hq
      rw [excess_cons, excess_opener]
      omega
    · rcases List.prefix_cons_iff.1 hr with rfl | ⟨w, rfl, hw⟩
      · rw [List.append_nil, excess_cons, excess_opener, hu.total]
        omega
      · rw [hfront]
        exact h.prefixes w hw

theorem IsNested.isLevel {b : Bracket} {s : List Char} (h : IsNested b s) : IsLevel b s := by
  induction h with
  | nil => exact isLevel_nil b
  | cons hopener hcloser _ ih => exact (isLevel_cons_iff hopener hcloser).2 ih
  | nest _ _ ihs iht => exact (isLevel_nest_iff ihs).2 iht

/-- Where the excess gets above zero, it does so first at a closing bracket behind a level text. -/
theorem exists_isLevel_append_closer {b : Bracket} {t : List Char}
    (h : ¬ ∀ p, p <+: t → excess b p ≤ 0) :
    ∃ u v, t = u ++ b.closer :: v ∧ IsLevel b u := by
  induction t using List.reverseRecOn with
  | nil => exact absurd (isLevel_nil b).prefixes h
  | append_singleton t c ih =>
      by_cases hall : ∀ p, p <+: t → excess b p ≤ 0
      · have hpos : 0 < excess b (t ++ [c]) := by
          by_contra hle
          refine h fun p hp => ?_
          rcases List.prefix_concat_iff.1 hp with rfl | hp
          · omega
          · exact hall p hp
        have ht := hall t List.prefix_rfl
        have hopener : c ≠ b.opener := by
          rintro rfl
          rw [excess_append, excess_opener] at hpos
          omega
        have hcloser : c = b.closer := by
          by_contra hne
          rw [excess_append, excess_of_ne hopener hne] at hpos
          omega
        subst hcloser
        rw [excess_append, excess_closer] at hpos
        exact ⟨t, [], rfl, hall, by omega⟩
      · obtain ⟨u, v, rfl, hu⟩ := ih hall
        exact ⟨u, v ++ [c], by simp, hu⟩

theorem IsLevel.isNested {b : Bracket} {s : List Char} (h : IsLevel b s) : IsNested b s := by
  induction hlength : s.length using Nat.strong_induction_on generalizing s with
  | _ n ih =>
    cases s with
    | nil => exact .nil
    | cons c t =>
        subst hlength
        by_cases hopener : c = b.opener
        · subst hopener
          obtain ⟨u, v, rfl, hu⟩ : ∃ u v, t = u ++ b.closer :: v ∧ IsLevel b u := by
            refine exists_isLevel_append_closer fun hall => ?_
            have hle := hall t List.prefix_rfl
            have htotal := h.total
            rw [excess_cons, excess_opener] at htotal
            omega
          have hlength :
              (b.opener :: (u ++ b.closer :: v)).length = u.length + v.length + 2 := by
            simp only [List.length_cons, List.length_append]
            omega
          exact .nest (ih u.length (by omega) hu rfl)
            (ih v.length (by omega) ((isLevel_nest_iff hu).1 h) rfl)
        by_cases hcloser : c = b.closer
        · subst hcloser
          have hle := h.prefixes [b.closer] (List.prefix_append _ t)
          rw [excess_closer] at hle
          omega
        · exact .cons hopener hcloser
            (ih t.length (by simp) ((isLevel_cons_iff hopener hcloser).1 h) rfl)

theorem isNested_iff_isLevel {b : Bracket} {s : List Char} : IsNested b s ↔ IsLevel b s :=
  ⟨IsNested.isLevel, IsLevel.isNested⟩

/-! ## The issues -/

/-- What a list of issues says about one kind of brackets in a text. -/
structure IsAccount (b : Bracket) (s : List Char) (issues : List Issue) : Prop where
  /-- There are as many stray brackets as the greatest excess of a prefix. -/
  greatest : IsGreatest (excess b '' {p | p <+: s}) (strayLines b issues).length
  /-- They are on the lines of the closing brackets that lift the excess to a record. -/
  lines : strayLines b issues = recordLines b s
  /-- What is open in the end is reported once, on the last line, unless there is nothing open. -/
  unclosed : ∃ n : Nat,
    (n : Int) = s.count b.opener - s.count b.closer + (strayLines b issues).length ∧
      openCounts b issues = if 0 < n then [(lineNumber s, n)] else []

theorem strayLines_append (b : Bracket) (is is' : List Issue) :
    strayLines b (is ++ is') = strayLines b is ++ strayLines b is' :=
  List.filterMap_append

theorem openCounts_append (b : Bracket) (is is' : List Issue) :
    openCounts b (is ++ is') = openCounts b is ++ openCounts b is' :=
  List.filterMap_append

theorem strayLines_filterMap_unclosed? (b : Bracket) (t : BracketCount) (line : Nat) :
    strayLines b (Bracket.all.filterMap (t.unclosed? line)) = [] := by
  rw [strayLines, List.filterMap_eq_nil_iff]
  intro i hi
  obtain ⟨b', -, hb'⟩ := List.mem_filterMap.1 hi
  rw [BracketCount.unclosed?] at hb'
  split_ifs at hb'
  rw [← Option.some.inj hb']
  rfl

theorem openCounts_issues_countOf (b : Bracket) (s : List Char) :
    openCounts b (countOf s).issues = [] := by
  rw [openCounts, List.filterMap_eq_nil_iff]
  intro i hi
  obtain ⟨line, b', rfl⟩ :=
    BracketCount.exists_of_mem_issues_run _ (by simp [BracketCount.start]) i hi
  rfl

theorem openCounts_filterMap_unclosed? (b : Bracket) (t : BracketCount) (line : Nat) :
    openCounts b (Bracket.all.filterMap (t.unclosed? line)) =
      if 0 < t.depth b then [(line, t.depth b)] else [] := by
  have hkind (b' : Bracket) : (t.unclosed? line b').bind (·.unclosedAt? b) =
      if b' = b ∧ 0 < t.depth b then some (line, t.depth b) else none := by
    rw [BracketCount.unclosed?]
    by_cases hb : b' = b
    · subst hb
      rcases Nat.eq_zero_or_pos (t.depth b') with h | h
      · simp [h]
      · simp [h, Nat.ne_of_gt h, Issue.unclosedAt?]
    · split_ifs <;> simp_all [Issue.unclosedAt?]
  rw [openCounts, List.filterMap_filterMap]
  simp only [hkind]
  split_ifs with h
  · simp only [h, and_true]
    cases b <;> rfl
  · simp [h]

theorem isAccount_bracketIssues (b : Bracket) (s : List Char) :
    IsAccount b s (bracketIssues (lines s)) := by
  have hcounted : IsCounted b s (countOf s) := isCounted_countOf b s
  have hissues : bracketIssues (lines s) =
      (countOf s).issues ++ Bracket.all.filterMap ((countOf s).unclosed? (lineNumber s)) := by
    rw [lineNumber, ← length_lines]
    rfl
  have hstray : strayLines b (bracketIssues (lines s)) = strayLines b (countOf s).issues := by
    rw [hissues, strayLines_append, strayLines_filterMap_unclosed?, List.append_nil]
  refine ⟨?_, hstray.trans hcounted.lines, (countOf s).depth b, ?_, ?_⟩
  · rw [hstray]
    exact hcounted.greatest
  · have hdepth := hcounted.depth
    rw [hstray, hdepth, excess]
    omega
  · rw [hissues, openCounts_append, openCounts_issues_countOf, List.nil_append,
      openCounts_filterMap_unclosed?]

theorem Issue.bracket?_eq_none_iff {i : Issue} :
    i.bracket? = none ↔ ∀ b, i.strayLine? b = none ∧ i.unclosedAt? b = none := by
  cases i with
  | empty => exact iff_of_true rfl fun _ => ⟨rfl, rfl⟩
  | unknownType => exact iff_of_true rfl fun _ => ⟨rfl, rfl⟩
  | stray line b =>
      exact iff_of_false (by simp [bracket?]) fun h => by simpa [strayLine?] using (h b).1
  | unclosed line count b =>
      exact iff_of_false (by simp [bracket?]) fun h => by simpa [unclosedAt?] using (h b).2

/-- No issue is about brackets just when there is nothing to say about any kind of them. -/
theorem forall_bracket?_eq_none_iff {issues : List Issue} :
    (∀ i ∈ issues, i.bracket? = none) ↔
      ∀ b, strayLines b issues = [] ∧ openCounts b issues = [] := by
  simp only [strayLines, openCounts, List.filterMap_eq_nil_iff, Issue.bracket?_eq_none_iff]
  constructor
  · intro h b
    exact ⟨fun i hi => (h i hi b).1, fun i hi => (h i hi b).2⟩
  · intro h i hi b
    exact ⟨(h b).1 i hi, (h b).2 i hi⟩

/-- Issues that are not about brackets change nothing in front of an account. -/
theorem IsAccount.prepend {b : Bracket} {s : List Char} {front issues : List Issue}
    (h : IsAccount b s issues) (hfront : ∀ i ∈ front, i.bracket? = none) :
    IsAccount b s (front ++ issues) := by
  obtain ⟨hstrayNil, hopenNil⟩ := forall_bracket?_eq_none_iff.1 hfront b
  have hstray : strayLines b (front ++ issues) = strayLines b issues := by
    rw [strayLines_append, hstrayNil, List.nil_append]
  have hunclosed : openCounts b (front ++ issues) = openCounts b issues := by
    rw [openCounts_append, hopenNil, List.nil_append]
  refine ⟨?_, ?_, ?_⟩
  · rw [hstray]
    exact h.greatest
  · rw [hstray]
    exact h.lines
  · rw [hstray, hunclosed]
    exact h.unclosed

/-- There is nothing to say about a kind of brackets just when they are nested. -/
theorem IsAccount.eq_nil_iff {b : Bracket} {s : List Char} {issues : List Issue}
    (h : IsAccount b s issues) :
    strayLines b issues = [] ∧ openCounts b issues = [] ↔ IsNested b s := by
  obtain ⟨n, hn, hunclosed⟩ := h.unclosed
  rw [isNested_iff_isLevel]
  constructor
  · rintro ⟨hstray, hopen⟩
    have hzero : n = 0 := by
      by_contra hne
      rw [if_pos (Nat.pos_of_ne_zero hne)] at hunclosed
      rw [hopen] at hunclosed
      exact absurd hunclosed (by simp)
    have hgreatest := h.greatest
    rw [hstray] at hn hgreatest
    refine ⟨fun p hp => hgreatest.2 ⟨p, hp, rfl⟩, ?_⟩
    rw [excess]
    simp only [List.length_nil] at hn
    omega
  · intro hlevel
    have hstray : strayLines b issues = [] := by
      obtain ⟨p, hp, heq⟩ := h.greatest.1
      have hle : excess b p ≤ 0 := hlevel.prefixes p hp
      rw [← List.length_eq_zero_iff]
      omega
    have htotal := hlevel.total
    rw [excess] at htotal
    rw [hstray, List.length_nil] at hn
    refine ⟨hstray, ?_⟩
    rw [hunclosed, if_neg (by omega)]

/-- The check gives an exact account of each kind of brackets in a text with something on the first
line. It finds no fault with the brackets just when those of every kind, taken alone, are nested. -/
theorem isAccount_check {text : String} (h : ¬ HasBlankFirstLine text) :
    (∀ b, IsAccount b text.toList (check text)) ∧
      ((∀ i ∈ check text, i.bracket? = none) ↔ ∀ b, IsNested b text.toList) := by
  have hall : ∀ b, IsAccount b text.toList (check text) := by
    intro b
    rw [check_of_not_hasBlankFirstLine h]
    refine (isAccount_bracketIssues b text.toList).prepend fun i hi => ?_
    split_ifs at hi
    · exact absurd hi List.not_mem_nil
    · rw [List.mem_singleton.1 hi]
      rfl
  refine ⟨hall, ?_⟩
  rw [forall_bracket?_eq_none_iff]
  exact forall_congr' fun b => (hall b).eq_nil_iff

/-- Brackets of three kinds that cross, on lines of their own. -/
def crossedText : String := "graph TD\n]A[\n)(]]\n\x7b(\n"

theorem isAccount_check_crossedText :
    ¬ HasBlankFirstLine crossedText ∧
      check crossedText = [.stray 2 .square, .stray 3 .round, .stray 3 .square,
        .unclosed 5 1 .curly, .unclosed 5 2 .round] ∧
      (∀ b, IsAccount b crossedText.toList (check crossedText)) ∧
      ((∀ i ∈ check crossedText, i.bracket? = none) ↔ ∀ b, IsNested b crossedText.toList) :=
  have hfirst : ¬ HasBlankFirstLine crossedText := by decide
  ⟨hfirst, by decide +kernel, isAccount_check hfirst⟩

end DiagramBridge.Mermaid
