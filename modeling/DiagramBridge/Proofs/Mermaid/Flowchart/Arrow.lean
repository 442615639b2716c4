import DiagramBridge.Mermaid.Flowchart.Arrow
import DiagramBridge.Proofs.Text.Blank

/-!
# Cutting lines at arrows

A hop begins where an arrow token or two dashes begin, so a stretch without those characters is
passed over. A line is cut at every token that it reaches, which is why no part of a chain has an
arrow token in it, whatever the line was.
-/

namespace DiagramBridge.Mermaid.Flowchart

open Text

/-- The arrow tokens, without the one that has another one in it. -/
def arrowTokens : List String := ["-->", "---", "-.-", "==>", "==="]

/-- A text in which no arrow token occurs. -/
def IsArrowFree (s : List Char) : Prop :=
  ∀ token ∈ arrowTokens, ¬ token.toList <:+: s

instance (s : List Char) : Decidable (IsArrowFree s) :=
  inferInstanceAs (Decidable (∀ token ∈ arrowTokens, _))

theorem IsArrowFree.of_infix {s t : List Char} (h : IsArrowFree t) (hst : s <:+: t) :
    IsArrowFree s :=
  fun token htoken hin => h token htoken (hin.trans hst)

/-- A text gets an arrow token from what stands around it only if one can begin in front of the text
or end behind it. -/
theorem IsArrowFree.append_append {a s b : List Char} (ha : ∀ c ∈ a, c ∉ ['-', '='])
    (h : IsArrowFree s) (hb : ∀ c ∈ b, c ∉ ['-', '=', '>']) : IsArrowFree (a ++ s ++ b) := by
  have hends : ∀ token ∈ arrowTokens, token.toList ≠ [] ∧
      (∀ c ∈ token.toList.head?, c ∈ ['-', '=']) ∧
        ∀ c ∈ token.toList.getLast?, c ∈ ['-', '=', '>'] := by
    decide
  intro token htoken hin
  obtain ⟨hne, hhead, hlast⟩ := hends token htoken
  rw [List.append_assoc] at hin
  have hin' := isInfix_of_append_left hne (fun c hc hmem => ha c hmem (hhead c hc)) hin
  exact h token htoken (isInfix_of_append hne (fun c hc hmem => hb c hmem (hlast c hc)) hin')

theorem isArrowFree_of_word {s : List Char} (h : ∀ c ∈ s, isWord c = true) : IsArrowFree s := by
  have hfree := IsArrowFree.append_append (a := s) (s := []) (b := [])
    (fun c hc => not_mem_of_isWord (h c hc) (by decide)) (by decide) (by simp)
  rwa [List.append_nil, List.append_nil] at hfree

/-- Every token of an arrow has one of the five in front. -/
theorem exists_arrowToken_isPrefix (lineStyle : LineStyle) (arrowEnd : Bool) :
    ∃ token ∈ arrowTokens, token.toList <+: (arrowToken lineStyle arrowEnd).toList := by
  cases lineStyle <;> cases arrowEnd <;> decide

/-! ## Where no hop begins -/

theorem tokenHop?_eq_none {s : List Char}
    (h : ∀ a ∈ arrows, ¬ (arrowToken a.1 a.2).toList <+: s) : tokenHop? s = none := by
  rw [tokenHop?, List.findSome?_eq_none_iff]
  rintro ⟨lineStyle, arrowEnd⟩ ha
  have hafter : after? (arrowToken lineStyle arrowEnd) s = none := after?_eq_none_iff.2 (h _ ha)
  simp only [hafter, Option.map_none]

theorem not_prefix_of_tokenHop?_eq_none {s : List Char} (h : tokenHop? s = none) :
    ∀ token ∈ arrowTokens, ¬ token.toList <+: s := by
  rw [tokenHop?, List.findSome?_eq_none_iff] at h
  have hnone : ∀ a ∈ arrows, ¬ (arrowToken a.1 a.2).toList <+: s := by
    intro a ha
    have hmap := h a ha
    rw [Option.map_eq_none_iff] at hmap
    exact after?_eq_none_iff.1 hmap
  have hcover : ∀ token ∈ arrowTokens, ∃ a ∈ arrows, arrowToken a.1 a.2 = token := by decide
  intro token htoken
  obtain ⟨a, ha, rfl⟩ := hcover token htoken
  exact hnone a ha

theorem untilArrow?_eq_none {s : List Char} (h : ¬ "-->".toList <:+: s) : untilArrow? s = none := by
  induction s with
  | nil => rfl
  | cons c s ih =>
      have htail : ¬ "-->".toList <:+: s := fun hs => h (hs.trans (List.suffix_cons c s).isInfix)
      have hnone := ih htail
      rw [untilArrow?, hnone]
      split
      · have hafter : after? "-->" (trimStart s) = none := by
          rw [after?_eq_none_iff]
          intro hpre
          exact htail (hpre.isInfix.trans (List.dropWhile_suffix _).isInfix)
        rw [hafter]
        rfl
      · split <;> rfl

theorem inlineHop?_eq_none {s : List Char} (h : ¬ "-->".toList <:+: s) : inlineHop? s = none := by
  rw [inlineHop?]
  cases hs : after? "--" s with
  | none => rfl
  | some r =>
      have hsuffix : r <:+ s := ⟨"--".toList, after?_eq_some_iff.1 hs⟩
      simp only [Option.bind_eq_bind, Option.bind_some]
      split
      · rfl
      · next b t =>
        split
        · rfl
        · split
          · rfl
          · next c u heq =>
            have hu : u <:+ s := by
              refine List.IsSuffix.trans ?_ (((List.suffix_cons b t)).trans hsuffix)
              exact (List.suffix_cons c u).trans (heq ▸ List.dropWhile_suffix isBlank)
            split
            · rfl
            · rw [untilArrow?_eq_none fun hin => h (hin.trans hu.isInfix)]
              rfl

theorem hopAt?_of_arrowFree {s : List Char} (h : IsArrowFree s) : hopAt? s = none := by
  have htoken : tokenHop? s = none := by
    refine tokenHop?_eq_none fun a _ hpre => ?_
    obtain ⟨token, hmem, htoken⟩ := exists_arrowToken_isPrefix a.1 a.2
    exact h token hmem (htoken.trans hpre).isInfix
  rw [hopAt?, htoken, inlineHop?_eq_none (h "-->" (by decide))]
  rfl

/-- A hop begins with a dash or with an equals sign. -/
theorem hopAt?_of_ne {c : Char} (hdash : c ≠ '-') (hequals : c ≠ '=') (s : List Char) :
    hopAt? (c :: s) = none := by
  have hheads : ∀ a ∈ arrows, (arrowToken a.1 a.2).toList.head? = some '-' ∨
      (arrowToken a.1 a.2).toList.head? = some '=' := by decide
  have htoken : tokenHop? (c :: s) = none := by
    refine tokenHop?_eq_none fun a ha hpre => ?_
    have hhead : ∀ d, (arrowToken a.1 a.2).toList.head? = some d → d = c := by
      intro d hd
      obtain ⟨t, ht⟩ := hpre
      obtain ⟨r, hr⟩ := List.head?_eq_some_iff.1 hd
      rw [hr] at ht
      exact (List.cons.inj ht).1
    rcases hheads a ha with h | h
    · exact hdash (hhead _ h).symm
    · exact hequals (hhead _ h).symm
  have hinline : inlineHop? (c :: s) = none := by
    have hafter : after? "--" (c :: s) = none := by
      rw [after?_eq_none_iff]
      rintro ⟨t, ht⟩
      exact hdash (List.cons.inj ht).1.symm
    rw [inlineHop?, hafter]
    rfl
  rw [hopAt?, htoken, hinline]
  rfl

/-! ## Chains -/

theorem after_append (s rest : List Char) : Chain.after s.length (s ++ rest) = Chain.after 0 rest := by
  induction s with
  | nil => rfl
  | cons c s ih =>
      cases s with
      | nil => rw [List.length_singleton, List.singleton_append, Chain.after]
      | cons d s => rw [List.length_cons, List.cons_append, Chain.after, ih]

theorem after_cons_of_none {c : Char} {s : List Char} (h : hopAt? (c :: s) = none) :
    Chain.after 0 (c :: s) = ⟨c :: (Chain.after 0 s).first, (Chain.after 0 s).hops⟩ := by
  rw [Chain.after, h]

theorem after_append_of_none {s : List Char} (h : ∀ c ∈ s, ∀ t, hopAt? (c :: t) = none)
    (rest : List Char) : Chain.after 0 (s ++ rest) =
      ⟨s ++ (Chain.after 0 rest).first, (Chain.after 0 rest).hops⟩ := by
  induction s with
  | nil => rfl
  | cons c s ih =>
      rw [List.cons_append, after_cons_of_none (h c (by simp) _), ih fun d hd => h d (by simp [hd]),
        List.cons_append]

theorem after_append_of_some {c : Char} {s rest : List Char} {hop : Hop}
    (h : hopAt? (c :: (s ++ rest)) = some (hop, rest)) :
    Chain.after 0 (c :: (s ++ rest)) =
      ⟨[], (hop, (Chain.after 0 rest).first) :: (Chain.after 0 rest).hops⟩ := by
  have hlength : (s ++ rest).length - rest.length = s.length := by
    rw [List.length_append, Nat.add_sub_cancel]
  rw [Chain.after, h]
  simp only [hlength, after_append]

/-- A line is cut at the first hop on it if no hop can begin before. -/
theorem ofLine_append {front text back : List Char} {hop : Hop}
    (hfront : ∀ c ∈ front, c ∉ ['-', '=']) (hne : text ≠ [])
    (hhop : hopAt? (text ++ back) = some (hop, back)) :
    Chain.ofLine (front ++ (text ++ back)) =
      ⟨front, (hop, (Chain.ofLine back).first) :: (Chain.ofLine back).hops⟩ := by
  have hnone : ∀ c ∈ front, ∀ t, hopAt? (c :: t) = none := by
    intro c hc
    have hmarks : c ≠ '-' ∧ c ≠ '=' := by simpa using hfront c hc
    exact hopAt?_of_ne hmarks.1 hmarks.2
  obtain ⟨c, s, rfl⟩ := List.exists_cons_of_ne_nil hne
  rw [List.cons_append] at hhop ⊢
  rw [Chain.ofLine, after_append_of_none hnone, after_append_of_some hhop, List.append_nil]
  rfl

theorem ofLine_of_arrowFree {s : List Char} (h : IsArrowFree s) : Chain.ofLine s = ⟨s, []⟩ := by
  rw [Chain.ofLine]
  induction s with
  | nil => rfl
  | cons c s ih =>
      have hs : IsArrowFree s := h.of_infix (List.suffix_cons c s).isInfix
      rw [after_cons_of_none (hopAt?_of_arrowFree h), ih hs]

/-! ## No part has an arrow in it -/

theorem isPrefix_first_after (s : List Char) : (Chain.after 0 s).first <+: s := by
  induction s with
  | nil => exact List.prefix_refl _
  | cons c s ih =>
      rw [Chain.after]
      split
      · exact List.nil_prefix
      · exact (List.prefix_cons_inj c).2 ih

theorem first_after_of_hops {s : List Char} (h : (Chain.after 0 s).hops = []) :
    (Chain.after 0 s).first = s := by
  induction s with
  | nil => rfl
  | cons c s ih =>
      rw [Chain.after] at h ⊢
      split at h
      · exact absurd h (List.cons_ne_nil _ _)
      · dsimp only at h ⊢
        rw [ih h]

/-- Parts of a chain are free of arrow tokens, whatever stands on the line. -/
theorem isArrowFree_after (n : Nat) (s : List Char) :
    IsArrowFree (Chain.after n s).first ∧ ∀ h ∈ (Chain.after n s).hops, IsArrowFree h.2 := by
  have hnil : IsArrowFree [] := by decide
  induction s generalizing n with
  | nil =>
      rw [Chain.after]
      exact ⟨hnil, by simp⟩
  | cons c s ih =>
      cases n with
      | succ n =>
          rw [Chain.after]
          exact ih n
      | zero =>
          rw [Chain.after]
          split
          · next hop rest _ =>
            obtain ⟨hfirst, hhops⟩ := ih (s.length - rest.length)
            refine ⟨hnil, fun h hh => ?_⟩
            rcases List.mem_cons.1 hh with rfl | hh
            · exact hfirst
            · exact hhops h hh
          · next hnone =>
            obtain ⟨hfirst, hhops⟩ := ih 0
            refine ⟨fun token htoken hin => ?_, hhops⟩
            -- An arrow at the very front would have been read as a hop here.
            rcases List.infix_cons_iff.1 hin with hpre | hin
            · have htokenHop : tokenHop? (c :: s) = none := by
                rw [hopAt?, Option.or_eq_none_iff] at hnone
                exact hnone.1
              refine not_prefix_of_tokenHop?_eq_none htokenHop token htoken (hpre.trans ?_)
              exact (List.prefix_cons_inj c).2 (isPrefix_first_after s)
            · exact hfirst token htoken hin

/-- A line is one part exactly when no arrow token stands on it. -/
theorem hops_ofLine_eq_nil_iff {s : List Char} : (Chain.ofLine s).hops = [] ↔ IsArrowFree s := by
  constructor
  · intro h
    have hfirst := (isArrowFree_after 0 s).1
    rwa [first_after_of_hops h] at hfirst
  · intro h
    rw [ofLine_of_arrowFree h]

end DiagramBridge.Mermaid.Flowchart
