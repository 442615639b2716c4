import DiagramBridge.Mermaid.Flowchart.NodeText
import DiagramBridge.Proofs.Mermaid.LabelText

/-!
# Reading written nodes

The brackets of a shape are tried in an order in which two characters come before one. A written
label never begins with an opening bracket, so no longer pair of brackets is found where a shorter
one was written; only a slash at both ends of a label between square brackets looks like other
brackets.
-/

namespace DiagramBridge.Mermaid.Flowchart

open Text

/-- The shape that the brackets of a shape stand for. -/
def bracketed : Shape → Shape
  | .classBox | .subgraph => .rectangle
  | shape => shape

/-- A label that the brackets of a shape can hold without being taken for others. -/
structure FitsBrackets (shape : Shape) (s : List Char) : Prop where
  nonempty : s ≠ []
  opening : ∀ c ∈ s.head?, c ∉ ['[', '(', '\x7b']
  slashes : bracketed shape = .rectangle → ¬ (s.head? = some '/' ∧ s.getLast? = some '/')

theorem dropStyleClass_append_singleton (s : List Char) {c : Char} (hc : isWord c = false) :
    dropStyleClass (s ++ [c]) = s ++ [c] := by
  have hname : (s ++ [c]).reverse.takeWhile isWord = [] := by
    rw [List.reverse_append, List.reverse_singleton, List.singleton_append,
      List.takeWhile_cons_of_neg (by simp [hc])]
  rw [dropStyleClass]
  simp only [hname]
  rfl

theorem insideBrackets?_written (shape : Shape) {s : List Char} (h : s ≠ []) :
    insideBrackets? shape ((brackets shape).1.toList ++ (s ++ (brackets shape).2.toList)) =
      some s := by
  rw [insideBrackets?, after?_append]
  simp only [Option.bind_eq_bind, Option.bind_some, beforeEnd?_append]
  rw [if_neg (by simpa using h)]

theorem insideBrackets?_eq_none {shape : Shape} {s : List Char}
    (h : ¬ (brackets shape).1.toList <+: s) : insideBrackets? shape s = none := by
  rw [insideBrackets?, after?_eq_none_iff.2 h]
  rfl

/-- A slash that no second one answers is no bracket. -/
theorem insideBrackets?_parallelogram {s : List Char}
    (h : ¬ (s.head? = some '/' ∧ s.getLast? = some '/')) :
    insideBrackets? .parallelogram ('[' :: (s ++ [']'])) = none := by
  cases hafter : after? "[/" ('[' :: (s ++ [']'])) with
  | none =>
      rw [insideBrackets?]
      simp only [brackets, hafter, Option.bind_eq_bind, Option.bind_none]
  | some r =>
      have hs : s ++ [']'] = '/' :: r := (List.cons.inj (after?_eq_some_iff.1 hafter)).2.symm
      cases hbefore : beforeEnd? "/]" r with
      | none =>
          rw [insideBrackets?]
          simp only [brackets, hafter, hbefore, Option.bind_eq_bind, Option.bind_some,
            Option.bind_none]
      | some front =>
          have hr : r = front ++ ['/'] ++ [']'] := by
            rw [List.append_assoc]
            exact (beforeEnd?_eq_some_iff.1 hbefore).symm
          rw [hr, ← List.cons_append] at hs
          have hslashes : s = '/' :: (front ++ ['/']) := List.append_cancel_right hs
          rw [hslashes] at h
          exact absurd ⟨rfl, by simp [List.getLast?_cons, List.getLast?_append]⟩ h

/-- The shapes whose brackets are tried before those that a shape is written with. -/
def triedBefore (shape : Shape) : List Shape :=
  bracketedShapes.takeWhile (· != bracketed shape)

theorem bracketedShapes_eq (shape : Shape) :
    ∃ rest, bracketedShapes = triedBefore shape ++ bracketed shape :: rest := by
  cases shape <;> exact ⟨_, rfl⟩

theorem brackets_bracketed (shape : Shape) : brackets (bracketed shape) = brackets shape := by
  cases shape <;> rfl

/-- What is tried earlier either does not begin with the brackets that are written, or has one
character more: an opening bracket, or a slash behind a square bracket. -/
theorem opening_of_mem_triedBefore (shape : Shape) : ∀ q ∈ triedBefore shape,
    ¬ (brackets q).1.toList <+: (brackets shape).1.toList ∧
      ∀ c ∈ (brackets q).1.toList.getLast?,
        (brackets shape).1.toList ++ [c] = (brackets q).1.toList →
          c ∈ ['[', '(', '\x7b'] ∨
            q = .parallelogram ∧ brackets shape = ("[", "]") ∧ bracketed shape = .rectangle := by
  cases shape <;> decide

theorem length_opening (shape q : Shape) :
    (brackets q).1.toList.length ≤ (brackets shape).1.toList.length + 1 := by
  cases shape <;> cases q <;> decide

theorem insideBrackets?_of_mem_triedBefore {shape q : Shape} {s : List Char}
    (h : FitsBrackets shape s) (hq : q ∈ triedBefore shape) :
    insideBrackets? q ((brackets shape).1.toList ++ (s ++ (brackets shape).2.toList)) = none := by
  obtain ⟨hopening, hlonger⟩ := opening_of_mem_triedBefore shape q hq
  by_cases hslash : q = .parallelogram ∧ brackets shape = ("[", "]") ∧ bracketed shape = .rectangle
  · obtain ⟨rfl, hbrackets, hshape⟩ := hslash
    rw [hbrackets]
    exact insideBrackets?_parallelogram (h.slashes hshape)
  · refine insideBrackets?_eq_none (not_prefix_append hopening ?_ (length_opening shape q))
    intro c hc heq
    rw [List.head?_append_of_ne_nil _ h.nonempty] at hc
    have hlast : c ∈ (brackets q).1.toList.getLast? := by
      rw [← heq, List.getLast?_append, List.getLast?_singleton]
      rfl
    rcases hlonger c hlast heq with hmem | hslash'
    · exact h.opening c hc hmem
    · exact hslash hslash'

theorem dropStyleClass_brackets (shape : Shape) (s : List Char) :
    dropStyleClass (s ++ (brackets shape).2.toList) = s ++ (brackets shape).2.toList := by
  have hclosing : ∃ front c, (brackets shape).2.toList = front ++ [c] ∧ isWord c = false := by
    cases shape
    all_goals exact ⟨_, _, (List.dropLast_append_getLast (by decide)).symm, by decide⟩
  obtain ⟨front, c, hclosing, hc⟩ := hclosing
  rw [hclosing, ← List.append_assoc, dropStyleClass_append_singleton _ hc]

theorem bracket?_written (shape : Shape) {s : List Char} (h : FitsBrackets shape s) :
    bracket? ((brackets shape).1.toList ++ (s ++ (brackets shape).2.toList)) =
      some (bracketed shape, unquote s) := by
  obtain ⟨rest, hshapes⟩ := bracketedShapes_eq shape
  rw [bracket?, ← List.append_assoc, dropStyleClass_brackets, List.append_assoc, hshapes,
    List.findSome?_append, List.findSome?_eq_none_iff.2, Option.none_or, List.findSome?_cons]
  · have hwritten := insideBrackets?_written (bracketed shape) h.nonempty
    rw [brackets_bracketed] at hwritten
    rw [hwritten]
    rfl
  · intro q hq
    rw [insideBrackets?_of_mem_triedBefore h hq]
    rfl

/-! ## Nodes on a line -/

theorem stops_opening (shape : Shape) (rest : List Char) :
    Stops isWord ((brackets shape).1.toList ++ rest) ∧
      Stops isBlank ((brackets shape).1.toList ++ rest) := by
  have hne : (brackets shape).1.toList ≠ [] := by cases shape <;> decide
  constructor
  · exact Stops.append (by cases shape <;> decide) hne
  · exact Stops.append (by cases shape <;> decide) hne

theorem stops_reverse_closing (shape : Shape) (s : List Char) :
    Stops isBlank (s ++ (brackets shape).2.toList).reverse := by
  rw [List.reverse_append]
  refine Stops.append ?_ (by cases shape <;> decide)
  cases shape <;> decide

/-- An id is read as it is, and what stands behind it is a bracketed label or nothing. -/
theorem read?_append {id rest : List Char} (hne : id ≠ []) (hid : ∀ c ∈ id, isWord c = true)
    (hword : Stops isWord rest) (hblank : Stops isBlank rest) (hend : Stops isBlank rest.reverse) :
    NodeText.read? (id ++ rest) = some ⟨id, bracket? rest⟩ := by
  have hidBlank : ∀ c ∈ id, isBlank c = false := fun c hc => isBlank_of_isWord (hid c hc)
  have htrim : IsTrimmed (id ++ rest) :=
    ⟨(stops_of_forall hidBlank).append hne, (isTrimmed_of_forall hidBlank).2.reverse_append hend⟩
  rw [NodeText.read?, trim_of_isTrimmed htrim, spanWord, span_append_of_stops hid hword]
  simp only [trimStart_of_stops hblank]
  cases bracket? rest with
  | some b => rfl
  | none => exact if_neg (by simpa using hne)

theorem read?_word {b id e : List Char} (hb : ∀ c ∈ b, isBlank c = true)
    (he : ∀ c ∈ e, isBlank c = true) (hne : id ≠ []) (hid : ∀ c ∈ id, isWord c = true) :
    NodeText.read? (b ++ id ++ e) = some ⟨id, none⟩ := by
  have htrim : trim (b ++ id ++ e) = id :=
    trim_append_append hb he (isTrimmed_of_forall fun c hc => isBlank_of_isWord (hid c hc))
  have hbracket : bracket? (trimStart []) = none := by decide
  rw [NodeText.read?, htrim, spanWord, span_of_forall hid]
  simp only [hbracket]
  rw [if_neg (by simpa using hne)]

theorem head_encode_of_plain {t : List Char} (hplain : t.any needsQuotes = false) :
    ∀ c ∈ (encode t).head?, c ∉ ['[', '(', '\x7b'] := by
  cases t with
  | nil => simp
  | cons d t =>
      rw [List.any_cons, Bool.or_eq_false_iff] at hplain
      rw [encode, List.flatMap_cons, encodeChar, quotedLabelChar]
      split
      · exact fun c hc => by
          obtain rfl : '<' = c := Option.some.inj hc
          decide
      · split
        · next hquote =>
          rw [hquote] at hplain
          exact absurd hplain.1 (by decide)
        · intro c hc hmem
          obtain rfl : d = c := Option.some.inj hc
          have hopenings : ∀ c ∈ ['[', '(', '\x7b'], needsQuotes c = true := by decide
          rw [hopenings d hmem] at hplain
          exact absurd hplain.1 (by simp)

/-- A written label fits between the brackets of its shape unless slashes stand at both its ends. -/
theorem fitsBrackets_labelText {shape : Shape} {t : List Char} (hne : encode t ≠ [])
    (hslashes : bracketed shape = .rectangle → t.any needsQuotes = false →
      ¬ ((encode t).head? = some '/' ∧ (encode t).getLast? = some '/')) :
    FitsBrackets shape (labelText t) := by
  rw [labelText_eq]
  split
  · refine ⟨List.cons_ne_nil _ _, fun c hc => ?_, fun _ hslash => ?_⟩
    · obtain rfl : '"' = c := Option.some.inj hc
      decide
    · exact absurd (Option.some.inj hslash.1) (by decide)
  · next hplain =>
    rw [Bool.not_eq_true] at hplain
    exact ⟨hne, head_encode_of_plain hplain, fun hshape => hslashes hshape hplain⟩

end DiagramBridge.Mermaid.Flowchart
