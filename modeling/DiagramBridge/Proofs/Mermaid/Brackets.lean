import DiagramBridge.Mermaid.Precheck
import DiagramBridge.Proofs.Text.Blank

/-!
# Counting brackets

The check counts brackets without regard to what they mean, line by line. Brackets that are nested
leave every count as it was (`IsBalanced.foldl_step`), and as long as nothing stray is found it does
not matter where the lines end (`run_zipIdx`). So a text whose brackets are nested has no issue with
them, also where a bracket is closed on a later line.
-/

namespace DiagramBridge.Mermaid

open Text

/-! ## Counting -/

namespace BracketCount

@[simp] theorem setDepth_self (s : BracketCount) (b : Bracket) : s.setDepth b (s.depth b) = s := by
  have hdepth : (fun b' => if b' = b then s.depth b else s.depth b') = s.depth := by
    funext b'
    split
    · next h => rw [h]
    · rfl
  rw [setDepth, hdepth]

@[simp] theorem setDepth_setDepth (s : BracketCount) (b : Bracket) (m n : Nat) :
    (s.setDepth b m).setDepth b n = s.setDepth b n := by
  have hdepth : (fun b' => if b' = b then n else if b' = b then m else s.depth b') =
      fun b' => if b' = b then n else s.depth b' := by
    funext b'
    split <;> rfl
  simp only [setDepth, hdepth]

@[simp] theorem depth_setDepth (s : BracketCount) (b : Bracket) (n : Nat) :
    (s.setDepth b n).depth b = n :=
  if_pos rfl

theorem step_opener (line : Nat) (s : BracketCount) (b : Bracket) :
    step line s b.opener = s.setDepth b (s.depth b + 1) := by
  cases b <;> rfl

/-- A bracket is closed that was opened before. -/
theorem step_closer (line : Nat) (s : BracketCount) (b : Bracket) (n : Nat) :
    step line (s.setDepth b (n + 1)) b.closer = s.setDepth b n := by
  have hopener : Bracket.all.find? (·.opener == b.closer) = none := by cases b <;> rfl
  have hcloser : Bracket.all.find? (·.closer == b.closer) = some b := by cases b <;> rfl
  rw [step]
  simp only [hopener, hcloser, depth_setDepth]
  rw [if_neg (Nat.succ_ne_zero n), setDepth_setDepth, Nat.add_sub_cancel]

/-- What a step does depends on the line only if it finds a stray bracket. -/
theorem step_cases (s : BracketCount) (c : Char) :
    (∃ t : BracketCount, t.issues = s.issues ∧ ∀ line, step line s c = t) ∨
      ∃ b, ∀ line, step line s c = { s with issues := s.issues ++ [.stray line b] } := by
  cases hopener : Bracket.all.find? (·.opener == c) with
  | some b => exact .inl ⟨s.setDepth b (s.depth b + 1), rfl, fun _ => by simp only [step, hopener]⟩
  | none =>
      cases hcloser : Bracket.all.find? (·.closer == c) with
      | none => exact .inl ⟨s, rfl, fun _ => by simp only [step, hopener, hcloser]⟩
      | some b =>
          by_cases hdepth : s.depth b = 0
          · exact .inr ⟨b, fun _ => by simp only [step, hopener, hcloser, if_pos hdepth]⟩
          · exact .inl ⟨s.setDepth b (s.depth b - 1), rfl,
              fun _ => by simp only [step, hopener, hcloser, if_neg hdepth]⟩

/-- No issue is taken back. -/
theorem isPrefix_issues (line : Nat) (s : BracketCount) (t : List Char) :
    s.issues <+: (t.foldl (step line) s).issues := by
  induction t generalizing s with
  | nil => exact List.prefix_refl _
  | cons c t ih =>
      rw [List.foldl_cons]
      refine List.IsPrefix.trans ?_ (ih _)
      rcases step_cases s c with ⟨u, hissues, hu⟩ | ⟨b, hb⟩
      · rw [hu]
        exact hissues ▸ List.prefix_refl _
      · rw [hb]
        exact List.prefix_append _ _

/-- All that is found while counting are stray brackets. -/
theorem exists_of_mem_issues_run (numbered : List (List Char × Nat)) {s : BracketCount}
    (h : ∀ i ∈ s.issues, ∃ line b, i = .stray line b) :
    ∀ i ∈ (s.run numbered).issues, ∃ line b, i = .stray line b := by
  have hline (line : Nat) (t : List Char) {s : BracketCount}
      (h : ∀ i ∈ s.issues, ∃ line b, i = .stray line b) :
      ∀ i ∈ (t.foldl (step line) s).issues, ∃ line b, i = .stray line b := by
    induction t generalizing s with
    | nil => exact h
    | cons c t ih =>
        apply ih
        rcases step_cases s c with ⟨u, hissues, hu⟩ | ⟨b, hb⟩
        · rwa [hu, hissues]
        · rw [hb]
          intro i hi
          rcases List.mem_append.1 hi with hi | hi
          · exact h i hi
          · exact ⟨line, b, List.mem_singleton.1 hi⟩
  induction numbered generalizing s with
  | nil => exact h
  | cons l numbered ih => exact ih (hline l.2 l.1 h)

/-- As long as nothing is found, the number of the line does not matter. -/
theorem foldl_step_eq (line line' : Nat) (s : BracketCount) (t : List Char)
    (h : (t.foldl (step line) s).issues = s.issues) :
    t.foldl (step line') s = t.foldl (step line) s := by
  induction t generalizing s with
  | nil => rfl
  | cons c t ih =>
      rw [List.foldl_cons] at h
      rw [List.foldl_cons, List.foldl_cons]
      rcases step_cases s c with ⟨u, hissues, hu⟩ | ⟨b, hb⟩
      · rw [hu, ← hissues] at h
        rw [hu, hu, ih u h]
      · have hprefix := isPrefix_issues line (step line s c) t
        rw [h, hb] at hprefix
        exact absurd hprefix.length_le (by simp)

/-- A text that has nothing stray is counted line by line as it is counted in one go. -/
theorem run_zipIdx (n line : Nat) (s : BracketCount) (ls : List (List Char))
    (h : ((unlines ls).foldl (step line) s).issues = s.issues) :
    s.run (ls.zipIdx n) = (unlines ls).foldl (step line) s := by
  induction ls generalizing n s with
  | nil => rfl
  | cons l ls ih =>
      have hrun : s.run ((l :: ls).zipIdx n) =
          (l.foldl (step n) s).run (ls.zipIdx (n + 1)) := rfl
      cases ls with
      | nil =>
          have hunlines : unlines [l] = l := List.append_nil l
          rw [hunlines] at h ⊢
          exact foldl_step_eq line n s l h
      | cons l' ls =>
          have hsplit : (unlines (l :: l' :: ls)).foldl (step line) s =
              (unlines (l' :: ls)).foldl (step line) (l.foldl (step line) s) := by
            have hunlines : unlines (l :: l' :: ls) = l ++ '\n' :: unlines (l' :: ls) := rfl
            rw [hunlines, List.foldl_append, List.foldl_cons]
            rfl
          rw [hsplit] at h ⊢
          have hfront : (l.foldl (step line) s).issues = s.issues := by
            have hprefix := isPrefix_issues line (l.foldl (step line) s) (unlines (l' :: ls))
            rw [h] at hprefix
            exact hprefix.eq_of_length_le (isPrefix_issues line s l).length_le
          rw [hrun, foldl_step_eq line n s l hfront]
          exact ih (n + 1) (l.foldl (step line) s) (h.trans hfront.symm)

end BracketCount

/-- The kind of brackets that an issue is about. -/
def Issue.bracket? : Issue → Option Bracket
  | stray _ b | unclosed _ _ b => some b
  | empty | unknownType => none

/-- An issue with brackets says of which kind they are. -/
theorem isSome_bracket?_of_mem_bracketIssues {ls : List (List Char)} {i : Issue}
    (h : i ∈ bracketIssues ls) : i.bracket?.isSome = true := by
  rcases List.mem_append.1 h with h | h
  · obtain ⟨line, b, rfl⟩ := BracketCount.exists_of_mem_issues_run _ (by simp [BracketCount.start]) i h
    rfl
  · obtain ⟨b, -, hb⟩ := List.mem_filterMap.1 h
    rw [BracketCount.unclosed?] at hb
    split at hb
    · exact absurd hb (by simp)
    · rw [← Option.some.inj hb]
      rfl

/-! ## Nested brackets -/

/-- The character is a bracket of some kind. -/
def isBracket (c : Char) : Bool :=
  Bracket.all.any fun b => c == b.opener || c == b.closer

/-- A text without brackets. -/
def IsUnbracketed (s : List Char) : Prop :=
  ∀ c ∈ s, isBracket c = false

instance (s : List Char) : Decidable (IsUnbracketed s) :=
  inferInstanceAs (Decidable (∀ c ∈ s, isBracket c = false))

/-- A text in which every bracket that is opened is closed behind what is nested in it. -/
inductive IsBalanced : List Char → Prop where
  | nil : IsBalanced []
  | cons {c : Char} {s : List Char} (hc : isBracket c = false) (hs : IsBalanced s) :
      IsBalanced (c :: s)
  | nest (b : Bracket) {s t : List Char} (hs : IsBalanced s) (ht : IsBalanced t) :
      IsBalanced (b.opener :: s ++ b.closer :: t)

theorem step_of_not_isBracket {c : Char} (h : isBracket c = false) (line : Nat)
    (s : BracketCount) : BracketCount.step line s c = s := by
  rw [isBracket, List.any_eq_false] at h
  have hopener : Bracket.all.find? (·.opener == c) = none := by
    rw [List.find?_eq_none]
    intro b hb heq
    rw [← eq_of_beq heq] at h
    exact h b hb (by simp)
  have hcloser : Bracket.all.find? (·.closer == c) = none := by
    rw [List.find?_eq_none]
    intro b hb heq
    rw [← eq_of_beq heq] at h
    exact h b hb (by simp)
  simp only [BracketCount.step, hopener, hcloser]

namespace IsBalanced

variable {s t : List Char}

/-- Nested brackets leave every count as it was. -/
theorem foldl_step (h : IsBalanced t) (line : Nat) (s : BracketCount) :
    t.foldl (BracketCount.step line) s = s := by
  induction h generalizing s with
  | nil => rfl
  | cons hc _ ih => rw [List.foldl_cons, step_of_not_isBracket hc, ih]
  | nest b _ _ ihs iht =>
      rw [List.foldl_append, List.foldl_cons, List.foldl_cons, BracketCount.step_opener, ihs,
        BracketCount.step_closer, BracketCount.setDepth_self, iht]

theorem of_isUnbracketed (h : IsUnbracketed s) : IsBalanced s := by
  induction s with
  | nil => exact .nil
  | cons c s ih =>
      rw [IsUnbracketed, List.forall_mem_cons] at h
      exact .cons h.1 (ih h.2)

theorem append (hs : IsBalanced s) (ht : IsBalanced t) : IsBalanced (s ++ t) := by
  induction hs with
  | nil => exact ht
  | cons hc _ ih => exact .cons hc ih
  | nest b hinner _ _ ih =>
      rw [List.append_assoc, List.cons_append (a := b.closer)]
      exact .nest b hinner ih

theorem flatMap {α : Type} {f : α → List Char} {l : List α} (h : ∀ a ∈ l, IsBalanced (f a)) :
    IsBalanced (l.flatMap f) := by
  induction l with
  | nil => exact .nil
  | cons a l ih =>
      rw [List.forall_mem_cons] at h
      rw [List.flatMap_cons]
      exact h.1.append (ih h.2)

/-- Brackets around a text. -/
theorem enclose (b : Bracket) (h : IsBalanced s) : IsBalanced (b.opener :: s ++ [b.closer]) :=
  .nest b h .nil

/-- Two pairs of brackets around a text. -/
theorem enclose_enclose (outer inner : Bracket) (h : IsBalanced s) :
    IsBalanced (outer.opener :: inner.opener :: s ++ [inner.closer, outer.closer]) := by
  have hnested := (h.enclose inner).enclose outer
  rwa [← List.cons_append, List.append_assoc] at hnested

end IsBalanced

/-- There are no issues with nested brackets, wherever the lines end. -/
theorem bracketIssues_of_isBalanced {s : List Char} (h : IsBalanced s) :
    bracketIssues (lines s) = [] := by
  have hcount : s.foldl (BracketCount.step 0) .start = .start := h.foldl_step 0 .start
  have hrun : BracketCount.start.run ((lines s).zipIdx 1) = .start := by
    rw [BracketCount.run_zipIdx 1 0, unlines_lines, hcount]
    rw [unlines_lines, hcount]
  rw [bracketIssues]
  simp only [hrun]
  rfl

end DiagramBridge.Mermaid
