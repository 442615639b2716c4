import DiagramBridge.Proofs.Mermaid.Flowchart.LineOrder
import DiagramBridge.Proofs.Mermaid.Flowchart.Statement

/-!
# Which subgraph a node is in

A line that begins with the opening word opens a subgraph, and the closing word closes the one that
was opened last, if there is any. Which subgraphs are open behind some lines can be said of the lines
alone: a subgraph is open as long as no closing line comes that has no opening line of its own behind
the one of the subgraph. The reader keeps the numbers of the open subgraphs on a stack, and lists a
node in the one on its top when the node is new.
-/

namespace DiagramBridge.Mermaid

namespace Flowchart

open Text

/-! ## Opening and closing lines -/

/-- The line opens a subgraph. -/
def IsOpening (line : List Char) : Prop :=
  "subgraph".toList <+: line

instance : DecidablePred IsOpening := fun line =>
  inferInstanceAs (Decidable ("subgraph".toList <+: line))

/-- The line closes a subgraph. -/
def IsClosing (line : List Char) : Prop :=
  line = "end".toList

instance : DecidablePred IsClosing := fun line =>
  inferInstanceAs (Decidable (line = "end".toList))

/-- The id and the label of the subgraph that a line opens behind the given number of others. -/
def heading (k : Nat) (line : List Char) : String × String :=
  match Statement.ofLine line with
  | .opening id label => (String.ofList id, String.ofList label)
  | _ => ("subgraph_" ++ decimalString k, "subgraph_" ++ decimalString k)

/-- The ids and the labels of the subgraphs that are opened on some lines. -/
def headings (lines : List (List Char)) : List (String × String) :=
  (lines.filter (IsOpening ·)).mapIdx heading

theorem not_isClosing_of_isOpening {line : List Char} (h : IsOpening line) : ¬ IsClosing line := by
  rintro rfl
  exact absurd h (by decide)

theorem ofLine_of_isOpening {line : List Char} (h : IsOpening line) :
    (∃ id label, Statement.ofLine line = .opening id label) ∨
      Statement.ofLine line = .openingUnnamed := by
  obtain ⟨rest, rfl⟩ := h
  have hdirection : isDirectionLine ("subgraph".toList ++ rest) = false :=
    not_isDirectionLine_of_foldLetter (c := 's') (List.mem_append_left _ (by decide)) (by decide)
      (by decide)
  have hskipped : skippedWords.any (startsWith · ("subgraph".toList ++ rest)) = false := by
    rw [List.any_eq_false]
    intro v hv hstart
    have hopening : "subgraph".toList <+: "subgraph".toList ++ rest := List.prefix_append _ _
    have hnone : ∀ v ∈ skippedWords,
        ¬ v.toList <+: "subgraph".toList ∧ ¬ "subgraph".toList <+: v.toList := by decide +kernel
    rcases List.prefix_or_prefix_of_prefix (startsWith_iff.1 hstart) hopening with h | h
    · exact (hnone v hv).1 h
    · exact (hnone v hv).2 h
  rw [Statement.ofLine, hdirection, hskipped, if_neg (by decide), after?_append]
  exact ofOpening_cases rest

theorem ofLine_of_not_isOpening {line : List Char} (hopening : ¬ IsOpening line)
    (hclosing : ¬ IsClosing line) :
    Statement.ofLine line = .skipped ∨ ∃ c, Statement.ofLine line = .chain c := by
  rw [Statement.ofLine, after?_eq_none_iff.2 hopening]
  split
  · exact .inl rfl
  · exact .inr ⟨_, if_neg hclosing⟩

/-! ## Open subgraphs -/

def openings (lines : List (List Char)) : Nat :=
  lines.countP (IsOpening ·)

def closings (lines : List (List Char)) : Nat :=
  lines.countP (IsClosing ·)

/-- What is open in front of the lines is open behind them. -/
def StaysOpen (lines : List (List Char)) : Prop :=
  ∀ front, front <+: lines → closings front ≤ openings front

/-- The subgraph of a number has been opened on the lines and is open behind them. -/
def IsOpen (lines : List (List Char)) (k : Nat) : Prop :=
  ∃ front line back, lines = front ++ line :: back ∧ IsOpening line ∧ openings front = k ∧
    StaysOpen back

/-- Of the open subgraphs, it is the one that was opened last. -/
def IsInnermost (lines : List (List Char)) (k : Nat) : Prop :=
  IsOpen lines k ∧ ∀ k', IsOpen lines k' → k' ≤ k

/-- A subgraph is open, and the given number of subgraphs within it as well. -/
def IsOpenAround (lines : List (List Char)) (depth k : Nat) : Prop :=
  ∃ front line back, lines = front ++ line :: back ∧ IsOpening line ∧ openings front = k ∧
    StaysOpen back ∧ openings back = closings back + depth

section

variable {lines front back : List (List Char)} {line x : List Char} {depth k : Nat}

theorem openings_append_singleton :
    openings (lines ++ [line]) = openings lines + if IsOpening line then 1 else 0 := by
  rw [openings, openings, List.countP_append, List.countP_singleton]
  simp only [decide_eq_true_eq]

theorem closings_append_singleton :
    closings (lines ++ [line]) = closings lines + if IsClosing line then 1 else 0 := by
  rw [closings, closings, List.countP_append, List.countP_singleton]
  simp only [decide_eq_true_eq]

theorem staysOpen_nil : StaysOpen [] := by
  intro front hfront
  rw [List.prefix_nil.1 hfront]
  exact le_rfl

theorem staysOpen_append_singleton : StaysOpen (lines ++ [line]) ↔
    StaysOpen lines ∧ closings (lines ++ [line]) ≤ openings (lines ++ [line]) := by
  simp only [StaysOpen, List.prefix_concat_iff, or_imp, forall_and, forall_eq]
  exact and_comm

theorem isOpen_iff : IsOpen lines k ↔ ∃ depth, IsOpenAround lines depth k := by
  constructor
  · rintro ⟨front, line, back, hlines, hline, hk, hback⟩
    obtain ⟨depth, hdepth⟩ := Nat.exists_eq_add_of_le (hback back List.prefix_rfl)
    exact ⟨depth, front, line, back, hlines, hline, hk, hback, hdepth⟩
  · rintro ⟨depth, front, line, back, hlines, hline, hk, hback, -⟩
    exact ⟨front, line, back, hlines, hline, hk, hback⟩

theorem openings_lt_of_isOpening (hlines : lines = front ++ line :: back) (h : IsOpening line) :
    openings front < openings lines := by
  rw [hlines, openings, openings, List.countP_append, List.countP_cons_of_pos (by simpa using h)]
  omega

/-- A line of a longer list is a line of the shorter list, or it is the last one. -/
theorem exists_append_singleton_iff {P : List (List Char) → List Char → List (List Char) → Prop} :
    (∃ front x back, lines ++ [line] = front ++ x :: back ∧ P front x back) ↔
      (∃ front x back, lines = front ++ x :: back ∧ P front x (back ++ [line])) ∨
        P lines line [] := by
  constructor
  · rintro ⟨front, x, back, hlines, h⟩
    rcases List.eq_nil_or_concat' back with rfl | ⟨back, y, rfl⟩
    · obtain ⟨rfl, hline⟩ := List.append_inj' hlines rfl
      exact .inr (List.singleton_inj.1 hline ▸ h)
    · rw [← List.cons_append, ← List.append_assoc] at hlines
      obtain ⟨hshort, hline⟩ := List.append_inj' hlines rfl
      exact .inl ⟨front, x, back, hshort, hline ▸ h⟩
  · rintro (⟨front, x, back, rfl, h⟩ | h)
    · exact ⟨front, x, back ++ [line], by simp, h⟩
    · exact ⟨lines, line, [], rfl, h⟩

theorem isOpenAround_append_singleton : IsOpenAround (lines ++ [line]) depth k ↔
    (∃ front x back, lines = front ++ x :: back ∧ IsOpening x ∧ openings front = k ∧
      StaysOpen (back ++ [line]) ∧ openings (back ++ [line]) = closings (back ++ [line]) + depth) ∨
      (IsOpening line ∧ openings lines = k ∧ depth = 0) := by
  rw [IsOpenAround, exists_append_singleton_iff]
  refine or_congr_right ⟨?_, ?_⟩
  · rintro ⟨hline, hk, -, hdepth⟩
    have hzero : openings [] = closings [] + 0 := rfl
    exact ⟨hline, hk, by omega⟩
  · rintro ⟨hline, hk, rfl⟩
    exact ⟨hline, hk, staysOpen_nil, rfl⟩

theorem isOpenAround_of_isOpening (h : IsOpening line) :
    IsOpenAround (lines ++ [line]) depth k ↔
      (∃ d, depth = d + 1 ∧ IsOpenAround lines d k) ∨ (openings lines = k ∧ depth = 0) := by
  have hclosing := not_isClosing_of_isOpening h
  simp only [isOpenAround_append_singleton, staysOpen_append_singleton, openings_append_singleton,
    closings_append_singleton, h, hclosing, ↓reduceIte, true_and]
  refine or_congr_left ⟨?_, ?_⟩
  · rintro ⟨front, x, back, hlines, hx, hk, ⟨hback, -⟩, hdepth⟩
    have hle := hback back List.prefix_rfl
    exact ⟨depth - 1, by omega, front, x, back, hlines, hx, hk, hback, by omega⟩
  · rintro ⟨d, rfl, front, x, back, hlines, hx, hk, hback, hdepth⟩
    exact ⟨front, x, back, hlines, hx, hk, ⟨hback, by omega⟩, by omega⟩

theorem isOpenAround_of_isClosing (h : IsClosing line) :
    IsOpenAround (lines ++ [line]) depth k ↔ IsOpenAround lines (depth + 1) k := by
  have hopening : ¬ IsOpening line := fun hopening => not_isClosing_of_isOpening hopening h
  simp only [isOpenAround_append_singleton, staysOpen_append_singleton, openings_append_singleton,
    closings_append_singleton, h, hopening, ↓reduceIte, false_and, or_false]
  constructor
  · rintro ⟨front, x, back, hlines, hx, hk, ⟨hback, -⟩, hdepth⟩
    exact ⟨front, x, back, hlines, hx, hk, hback, by omega⟩
  · rintro ⟨front, x, back, hlines, hx, hk, hback, hdepth⟩
    exact ⟨front, x, back, hlines, hx, hk, ⟨hback, by omega⟩, by omega⟩

theorem isOpenAround_of_other (hopening : ¬ IsOpening line) (hclosing : ¬ IsClosing line) :
    IsOpenAround (lines ++ [line]) depth k ↔ IsOpenAround lines depth k := by
  simp only [isOpenAround_append_singleton, staysOpen_append_singleton, openings_append_singleton,
    closings_append_singleton, hopening, hclosing, ↓reduceIte, false_and, or_false]
  constructor
  · rintro ⟨front, x, back, hlines, hx, hk, ⟨hback, -⟩, hdepth⟩
    exact ⟨front, x, back, hlines, hx, hk, hback, hdepth⟩
  · rintro ⟨front, x, back, hlines, hx, hk, hback, hdepth⟩
    exact ⟨front, x, back, hlines, hx, hk, ⟨hback, by omega⟩, hdepth⟩

end

/-! ## Reading a line -/

/-- The id is listed in the subgraph of a number. -/
def IsListed (g : Graph) (k : Nat) (id : String) : Prop :=
  ∃ s, g.subgraphs[k]? = some s ∧ id ∈ s.nodes

/-- A subgraph with more nodes. -/
def appended (new : List String) (s : Subgraph) : Subgraph :=
  { s with nodes := s.nodes ++ new }

/-- The reader has found new nodes and listed them in the innermost open subgraph. -/
structure Progress.Finds (p : Progress) (new : List String) (p' : Progress) : Prop where
  nodeIds : p'.graph.nodeIds = p.graph.nodeIds ++ new
  scopes : p'.scopes = p.scopes
  subgraphs : ∀ k, p'.graph.subgraphs[k]? =
    p.graph.subgraphs[k]?.map fun s => if p.scopes.head? = some k then appended new s else s

section

variable {p p' p'' : Progress} {new new' : List String}

theorem Progress.finds_nil (h : p'.graph.nodeIds = p.graph.nodeIds) (hscopes : p'.scopes = p.scopes)
    (hsubgraphs : p'.graph.subgraphs = p.graph.subgraphs) : p.Finds [] p' := by
  refine ⟨by rw [h, List.append_nil], hscopes, fun k => ?_⟩
  have happended (s : Subgraph) : appended [] s = s := by
    rw [appended, List.append_nil]
  simp only [hsubgraphs, happended, ite_self, Option.map_id']

theorem Progress.Finds.trans (h : p.Finds new p') (h' : p'.Finds new' p'') :
    p.Finds (new ++ new') p'' := by
  refine ⟨by rw [h'.nodeIds, h.nodeIds, List.append_assoc], h'.scopes.trans h.scopes, fun k => ?_⟩
  rw [h'.subgraphs, h.subgraphs, h.scopes, Option.map_map]
  refine congrArg (Option.map · _) (funext fun s => ?_)
  by_cases hk : p.scopes.head? = some k
  · simp only [Function.comp_apply, if_pos hk, appended, List.append_assoc]
  · simp only [Function.comp_apply, if_neg hk]

theorem Progress.finds_mention (p : Progress) (id : String) (bracket : Option (Shape × List Char)) :
    ∃ new, p.Finds new (p.mention id bracket) := by
  by_cases hknown : p.graph.hasNode id = true
  · have hids (m : Mention) (hm : m.id = id) : (p.graph.mention m).nodeIds = p.graph.nodeIds := by
      rw [Graph.nodeIds, Graph.nodes_mention_of_known (hm ▸ hknown), List.map_map]
      exact List.map_congr_left fun n _ => Graph.id_mentioned
    refine ⟨[], ?_⟩
    rw [Progress.mention]
    split
    · exact finds_nil (hids _ rfl) rfl (Graph.subgraphs_mention ..)
    · rw [if_pos hknown]
      exact finds_nil (hids _ rfl) rfl (Graph.subgraphs_mention ..)
  · have hids (m : Mention) (hm : m.id = id) :
        (p.graph.mention m).nodeIds = p.graph.nodeIds ++ [id] := by
      rw [Graph.nodeIds, Graph.nodes_mention_of_new (by simpa [hm] using hknown), List.map_append,
        List.map_singleton]
      exact congrArg (_ ++ [·]) hm
    refine ⟨[id], ?_⟩
    rw [Progress.mention]
    split
    · next hscopes =>
      refine ⟨hids _ rfl, rfl, fun k => ?_⟩
      rw [hscopes, Graph.subgraphs_mention]
      simp
    · next place scopes hscopes =>
      rw [if_neg hknown]
      refine ⟨hids _ rfl, rfl, fun k => ?_⟩
      rw [Graph.enlist, hscopes, Graph.subgraphs_mention, List.getElem?_modify, List.head?_cons]
      simp only [Option.some.injEq]
      rfl

theorem Progress.finds_readPart (p : Progress) (part : List Char) :
    ∃ new, p.Finds new (p.readPart part).1 := by
  rw [Progress.readPart]
  cases NodeText.read? part with
  | none => exact ⟨[], finds_nil rfl rfl rfl⟩
  | some t =>
      have hidentify : p.Finds [] (p.identify t).1 := by
        rw [Progress.identify]
        split <;> exact finds_nil rfl rfl rfl
      obtain ⟨new, hmention⟩ := (p.identify t).1.finds_mention (p.identify t).2 t.bracket
      exact ⟨_, hidentify.trans hmention⟩

theorem Progress.finds_readHops (p : Progress) (previous : Option String)
    (hops : List (Hop × List Char)) : ∃ new, p.Finds new (p.readHops previous hops) := by
  induction hops generalizing p previous with
  | nil => exact ⟨[], finds_nil rfl rfl rfl⟩
  | cons hop hops ih =>
      obtain ⟨new, hpart⟩ := p.finds_readPart hop.2
      rw [Progress.readHops]
      generalize p.readPart hop.2 = part at hpart ⊢
      obtain ⟨q, current⟩ := part
      dsimp only at hpart ⊢
      -- The edge of the hop neither adds a node nor touches a subgraph.
      split
      · next source target =>
        have hjoin : q.Finds [] (q.join source target hop.1) := finds_nil rfl rfl rfl
        obtain ⟨new', hrest⟩ := ih (q.join source target hop.1) (some target)
        exact ⟨_, hpart.trans (hjoin.trans hrest)⟩
      · obtain ⟨new', hrest⟩ := ih q current
        exact ⟨_, hpart.trans hrest⟩

/-- A line opens a subgraph, closes one, or has nodes. -/
theorem Progress.readLine_cases (p : Progress) (line : List Char) :
    (IsOpening line ∧ p.readLine line =
        p.openSubgraph (heading p.graph.subgraphs.length line).1
          (heading p.graph.subgraphs.length line).2) ∨
      (IsClosing line ∧ p.readLine line = { p with scopes := p.scopes.tail }) ∨
      (¬ IsOpening line ∧ ¬ IsClosing line ∧ ∃ new, p.Finds new (p.readLine line)) := by
  by_cases hopening : IsOpening line
  · refine .inl ⟨hopening, ?_⟩
    rcases ofLine_of_isOpening hopening with ⟨id, label, h⟩ | h
    · rw [Progress.readLine, heading, h]
      rfl
    · rw [Progress.readLine, heading, h]
      rfl
  · by_cases hclosing : IsClosing line
    · refine .inr (.inl ⟨hclosing, ?_⟩)
      obtain rfl : line = "end".toList := hclosing
      have hend : Statement.ofLine "end".toList = .closing := by decide
      rw [Progress.readLine, hend]
      rfl
    · refine .inr (.inr ⟨hopening, hclosing, ?_⟩)
      rw [Progress.readLine]
      rcases ofLine_of_not_isOpening hopening hclosing with h | ⟨c, h⟩
      · rw [h]
        exact ⟨[], finds_nil rfl rfl rfl⟩
      · obtain ⟨new, hfirst⟩ := p.finds_readPart c.first
        obtain ⟨new', hhops⟩ := (p.readPart c.first).1.finds_readHops (p.readPart c.first).2 c.hops
        rw [h]
        exact ⟨_, hfirst.trans hhops⟩

theorem Progress.Finds.mem_new_iff (h : p.Finds new p') {id : String} :
    id ∈ new ↔ id ∉ p.graph.nodeIds ∧ id ∈ p'.graph.nodeIds := by
  have hnodup : (p.graph.nodeIds ++ new).Nodup := h.nodeIds ▸ p'.graph.nodup
  have hdisjoint := List.disjoint_of_nodup_append hnodup
  rw [h.nodeIds, List.mem_append]
  exact ⟨fun hid => ⟨fun hold => hdisjoint hold hid, .inr hid⟩, fun ⟨hold, hid⟩ =>
    hid.resolve_left hold⟩

theorem Progress.Finds.isListed_iff (h : p.Finds new p') {k : Nat} {id : String}
    (hplaces : ∀ k ∈ p.scopes, k < p.graph.subgraphs.length) :
    IsListed p'.graph k id ↔ IsListed p.graph k id ∨ (id ∈ new ∧ p.scopes.head? = some k) := by
  rw [IsListed, IsListed, h.subgraphs]
  by_cases hk : p.scopes.head? = some k
  · obtain ⟨s, hs⟩ : ∃ s, p.graph.subgraphs[k]? = some s :=
      ⟨_, List.getElem?_eq_getElem (hplaces k (List.mem_of_head? hk))⟩
    simp [hs, hk, appended]
  · simp [hk]

theorem isListed_addSubgraph (g : Graph) {s : Subgraph} (hs : s.nodes = []) {k : Nat} {id : String} :
    IsListed (g.addSubgraph s) k id ↔ IsListed g k id := by
  rw [IsListed, IsListed, Graph.addSubgraph]
  rcases lt_or_ge k g.subgraphs.length with hk | hk
  · rw [List.getElem?_append_left hk]
  · refine iff_of_false ?_ (by simp [List.getElem?_eq_none hk])
    rintro ⟨s', hs', hid⟩
    rw [List.getElem?_append_right hk] at hs'
    rw [List.mem_singleton.1 (List.mem_of_getElem? hs'), hs] at hid
    exact absurd hid List.not_mem_nil

end

/-! ## Behind some lines -/

/-- What has been read behind some lines. -/
def after (lines : List (List Char)) : Progress :=
  lines.foldl Progress.readLine .start

/-- A node with the id is mentioned on the lines. -/
def IsMentioned (lines : List (List Char)) (id : String) : Prop :=
  id ∈ (occurrences lines).map Occurrence.id

/-- A node with the id is mentioned on the line, and on none of the lines in front of it. -/
def IsFirstMention (front : List (List Char)) (line : List Char) (id : String) : Prop :=
  ¬ IsMentioned front id ∧ IsMentioned (front ++ [line]) id

section

variable {lines front back : List (List Char)} {line : List Char} {id : String} {depth k : Nat}

theorem after_append_singleton : after (lines ++ [line]) = (after lines).readLine line := by
  rw [after, List.foldl_append, after]
  rfl

theorem mem_nodeIds_after : id ∈ (after lines).graph.nodeIds ↔ IsMentioned lines id := by
  rw [after, (hasRead_start.foldl_readLine lines).knows.nodeIds, List.mem_eraseDups, IsMentioned,
    occurrences]

theorem length_headings (lines : List (List Char)) : (headings lines).length = openings lines := by
  rw [headings, List.length_mapIdx, openings, List.countP_eq_length_filter]

theorem headings_append_singleton : headings (lines ++ [line]) =
    headings lines ++ if IsOpening line then [heading (openings lines) line] else [] := by
  rw [headings, List.filter_append, List.mapIdx_append, headings, openings,
    List.countP_eq_length_filter]
  congr 1
  by_cases h : IsOpening line
  · simp [h]
  · simp [h]

/-- There is one subgraph for each opening line. -/
theorem headings_after (lines : List (List Char)) :
    ((after lines).graph.subgraphs.map fun s => (s.id, s.label)) = headings lines := by
  induction lines using List.reverseRecOn with
  | nil => rfl
  | append_singleton lines line ih =>
      have hlength : (after lines).graph.subgraphs.length = openings lines := by
        rw [← length_headings, ← ih, List.length_map]
      rw [after_append_singleton, headings_append_singleton, ← ih]
      rcases (after lines).readLine_cases line with ⟨h, hread⟩ | ⟨h, hread⟩ | ⟨h, -, new, hread⟩
      · rw [hread, if_pos h, hlength, Progress.openSubgraph, Graph.addSubgraph, List.map_append]
        rfl
      · rw [hread, if_neg fun hopening => not_isClosing_of_isOpening hopening h, List.append_nil]
      · rw [if_neg h, List.append_nil]
        refine List.ext_getElem? fun k => ?_
        rw [List.getElem?_map, List.getElem?_map, hread.subgraphs, Option.map_map]
        refine congrArg (Option.map · _) (funext fun s => ?_)
        rw [Function.comp_apply]
        split <;> rfl

theorem length_subgraphs_after (lines : List (List Char)) :
    (after lines).graph.subgraphs.length = openings lines := by
  rw [← length_headings, ← headings_after, List.length_map]

/-- The stack holds the open subgraphs, each at its depth. -/
theorem getElem?_scopes_after :
    (after lines).scopes[depth]? = some k ↔ IsOpenAround lines depth k := by
  induction lines using List.reverseRecOn generalizing depth k with
  | nil => simp [after, Progress.start, IsOpenAround]
  | append_singleton lines line ih =>
      rw [after_append_singleton]
      rcases (after lines).readLine_cases line with ⟨h, hread⟩ | ⟨h, hread⟩ | ⟨h, h', new, hread⟩
      · rw [hread, isOpenAround_of_isOpening h, Progress.openSubgraph, length_subgraphs_after]
        cases depth with
        | zero => simp
        | succ depth => simp [ih]
      · rw [hread, isOpenAround_of_isClosing h, List.getElem?_tail, ih]
      · rw [hread.scopes, isOpenAround_of_other h h', ih]

theorem mem_scopes_after : k ∈ (after lines).scopes ↔ IsOpen lines k := by
  rw [List.mem_iff_getElem?, isOpen_iff]
  exact exists_congr fun _ => getElem?_scopes_after

theorem IsOpen.lt_openings (h : IsOpen lines k) : k < openings lines := by
  obtain ⟨front, line, back, hlines, hline, rfl, -⟩ := h
  exact openings_lt_of_isOpening hlines hline

/-- A subgraph that has been opened later lies above one that has been opened before. -/
theorem pairwise_scopes_after (lines : List (List Char)) : (after lines).scopes.Pairwise (· > ·) := by
  induction lines using List.reverseRecOn with
  | nil => exact List.Pairwise.nil
  | append_singleton lines line ih =>
      rw [after_append_singleton]
      rcases (after lines).readLine_cases line with ⟨h, hread⟩ | ⟨h, hread⟩ | ⟨h, h', new, hread⟩
      · rw [hread, Progress.openSubgraph, length_subgraphs_after]
        exact ih.cons fun k hk => (mem_scopes_after.1 hk).lt_openings
      · rw [hread]
        exact ih.tail
      · rwa [hread.scopes]

theorem head?_scopes_after : (after lines).scopes.head? = some k ↔ IsInnermost lines k := by
  have hmem (k : Nat) : k ∈ (after lines).scopes ↔ IsOpen lines k := mem_scopes_after
  have hsorted := pairwise_scopes_after lines
  simp only [IsInnermost, ← hmem]
  cases hscopes : (after lines).scopes with
  | nil => simp
  | cons top scopes =>
      rw [hscopes, List.pairwise_cons] at hsorted
      rw [List.head?_cons, Option.some.injEq]
      constructor
      · rintro rfl
        refine ⟨List.mem_cons_self, List.forall_mem_cons.2 ⟨le_rfl, fun k hk => ?_⟩⟩
        exact (hsorted.1 k hk).le
      · rintro ⟨hk, hmax⟩
        rcases List.mem_cons.1 hk with rfl | hk
        · rfl
        · exact absurd (hmax top List.mem_cons_self) (hsorted.1 k hk).not_ge

theorem exists_isInnermost_iff : (∃ k, IsInnermost lines k) ↔ ∃ k, IsOpen lines k := by
  simp only [← head?_scopes_after, ← mem_scopes_after]
  cases (after lines).scopes with
  | nil => simp
  | cons top scopes => exact iff_of_true ⟨top, rfl⟩ ⟨top, List.mem_cons_self⟩

/-! ## First mentions -/

theorem IsMentioned.append (h : IsMentioned lines id) (lines' : List (List Char)) :
    IsMentioned (lines ++ lines') id := by
  obtain ⟨os, hos⟩ := exists_occurrences_append lines lines'
  rw [IsMentioned, hos, List.map_append]
  exact List.mem_append_left _ h

theorem exists_isFirstMention_iff :
    (∃ front line back, lines = front ++ line :: back ∧ IsFirstMention front line id) ↔
      IsMentioned lines id := by
  induction lines using List.reverseRecOn with
  | nil => exact iff_of_false (by simp) (by simp [IsMentioned, occurrences, nodeTexts, Naming.start])
  | append_singleton lines line ih =>
      rw [exists_append_singleton_iff, ih, IsFirstMention]
      by_cases h : IsMentioned lines id
      · exact iff_of_true (.inl h) (h.append _)
      · simp [h]

/-- Nothing can be mentioned on the lines in front of its first mention. -/
theorem IsFirstMention.length_le (h : IsFirstMention front line id)
    (hfront : front ++ [line] <+: lines) {front' : List (List Char)} (hfront' : front' <+: lines)
    (hnot : ¬ IsMentioned front' id) : front'.length ≤ front.length := by
  by_contra hlt
  have hlength : (front ++ [line]).length ≤ front'.length := by
    rw [List.length_append, List.length_singleton]
    omega
  obtain ⟨rest, rfl⟩ := List.prefix_of_prefix_length_le hfront hfront' hlength
  exact hnot (h.2.append rest)

theorem IsFirstMention.front_unique (h : IsFirstMention front line id)
    (hlines : lines = front ++ line :: back) {front' back' : List (List Char)} {line' : List Char}
    (h' : IsFirstMention front' line' id) (hlines' : lines = front' ++ line' :: back') :
    front = front' := by
  have hprefix : front ++ [line] <+: lines := ⟨back, by simp [hlines]⟩
  have hprefix' : front' ++ [line'] <+: lines := ⟨back', by simp [hlines']⟩
  have hfront := (List.prefix_append front [line]).trans hprefix
  have hfront' := (List.prefix_append front' [line']).trans hprefix'
  have hle := h'.length_le hprefix' hfront h.1
  have hle' := h.length_le hprefix hfront' h'.1
  exact (List.prefix_of_prefix_length_le hfront hfront' hle).eq_of_length (by omega)

/-! ## Lists of the subgraphs -/

theorem isFirstMention_iff : IsFirstMention lines line id ↔
    id ∉ (after lines).graph.nodeIds ∧ id ∈ ((after lines).readLine line).graph.nodeIds := by
  rw [IsFirstMention, ← mem_nodeIds_after, ← mem_nodeIds_after, after_append_singleton]

theorem isListed_after_append_singleton : IsListed (after (lines ++ [line])).graph k id ↔
    IsListed (after lines).graph k id ∨ (IsFirstMention lines line id ∧ IsInnermost lines k) := by
  rw [isFirstMention_iff, after_append_singleton]
  have hsame {p : Progress} (hids : p.graph.nodeIds = (after lines).graph.nodeIds)
      (hlisted : IsListed p.graph k id ↔ IsListed (after lines).graph k id) :
      IsListed p.graph k id ↔ IsListed (after lines).graph k id ∨
        ((id ∉ (after lines).graph.nodeIds ∧ id ∈ p.graph.nodeIds) ∧ IsInnermost lines k) := by
    rw [hlisted, hids]
    exact ⟨.inl, fun h => h.resolve_right fun hnew => hnew.1.1 hnew.1.2⟩
  rcases (after lines).readLine_cases line with ⟨-, hread⟩ | ⟨-, hread⟩ | ⟨-, -, new, hread⟩
  · rw [hread]
    exact hsame rfl (isListed_addSubgraph _ rfl)
  · rw [hread]
    exact hsame rfl Iff.rfl
  · rw [← hread.mem_new_iff, ← head?_scopes_after]
    refine hread.isListed_iff fun k hk => ?_
    rw [length_subgraphs_after]
    exact (mem_scopes_after.1 hk).lt_openings

/-- A node is listed in the subgraph that is innermost where it is mentioned first. -/
theorem isListed_after_iff : IsListed (after lines).graph k id ↔
    ∃ front line back, lines = front ++ line :: back ∧ IsFirstMention front line id ∧
      IsInnermost front k := by
  induction lines using List.reverseRecOn with
  | nil => exact iff_of_false (by simp [IsListed, after, Progress.start, Graph.empty]) (by simp)
  | append_singleton lines line ih =>
      rw [isListed_after_append_singleton, ih, exists_append_singleton_iff]

/-- A subgraph lists nodes, in their order. -/
theorem sublist_nodeIds_after {s : Subgraph} (hs : s ∈ (after lines).graph.subgraphs) :
    s.nodes.Sublist (after lines).graph.nodeIds := by
  induction lines using List.reverseRecOn generalizing s with
  | nil => exact absurd hs List.not_mem_nil
  | append_singleton lines line ih =>
      rw [after_append_singleton] at hs ⊢
      rcases (after lines).readLine_cases line with ⟨-, hread⟩ | ⟨-, hread⟩ | ⟨-, -, new, hread⟩
      · rw [hread] at hs ⊢
        rcases List.mem_append.1 hs with hs | hs
        · exact ih hs
        · rw [List.mem_singleton.1 hs]
          exact List.nil_sublist _
      · rw [hread] at hs ⊢
        exact ih hs
      · obtain ⟨k, hk⟩ := List.mem_iff_getElem?.1 hs
        rw [hread.subgraphs] at hk
        obtain ⟨s, hplace, rfl⟩ := Option.map_eq_some_iff.1 hk
        have hold := ih (List.mem_of_getElem? hplace)
        rw [hread.nodeIds]
        split
        · exact hold.append (List.Sublist.refl new)
        · exact hold.trans (List.sublist_append_left _ _)

theorem eq_of_isListed_after {k' : Nat} (h : IsListed (after lines).graph k id)
    (h' : IsListed (after lines).graph k' id) : k = k' := by
  obtain ⟨front, line, back, hlines, hfirst, hk⟩ := isListed_after_iff.1 h
  obtain ⟨front', line', back', hlines', hfirst', hk'⟩ := isListed_after_iff.1 h'
  obtain rfl := hfirst.front_unique hlines hfirst' hlines'
  exact le_antisymm (hk'.2 k hk.1) (hk.2 k' hk'.1)

theorem nodup_flatMap_nodes_after (lines : List (List Char)) :
    ((after lines).graph.subgraphs.flatMap Subgraph.nodes).Nodup := by
  refine List.nodup_flatMap.2 ⟨fun s hs => ?_, List.pairwise_iff_getElem.2 ?_⟩
  · exact (sublist_nodeIds_after hs).nodup (after lines).graph.nodup
  · intro i j hi hj hij id hmem hmem'
    have heq : i = j := eq_of_isListed_after ⟨_, List.getElem?_eq_getElem hi, hmem⟩
      ⟨_, List.getElem?_eq_getElem hj, hmem'⟩
    omega

end

end Flowchart

/-- **The subgraphs of a flowchart.** There is one subgraph for each line that opens one, in their
order. A node is listed in the subgraph that was opened last, of those that are open behind the lines
in front of its first mention, and in none if none is open there. No node is listed twice, and each
list has nodes only, in their order. -/
theorem subgraphs_of_read {text : String} {d : Diagram} (hread : read text = .ok d)
    (htype : d.type = .flowchart) :
    ∃ body, flowchartBody? text = some body ∧
      (d.graph.subgraphs.map fun s => (s.id, s.label)) = Flowchart.headings body ∧
      (∀ s ∈ d.graph.subgraphs, s.nodes.Sublist d.graph.nodeIds) ∧
      (d.graph.subgraphs.flatMap Subgraph.nodes).Nodup ∧
      ∀ id ∈ d.graph.nodeIds, ∃ front line back, body = front ++ line :: back ∧
        Flowchart.IsFirstMention front line id ∧
        (∀ k, Flowchart.IsListed d.graph k id ↔ Flowchart.IsInnermost front k) ∧
        ((∃ k, Flowchart.IsListed d.graph k id) ↔ ∃ k, Flowchart.IsOpen front k) := by
  obtain ⟨body, hbody, hgraph⟩ := exists_flowchartBody? hread htype
  have hafter : d.graph = (Flowchart.after body).graph := hgraph
  rw [hafter]
  refine ⟨body, hbody, Flowchart.headings_after body, fun s => Flowchart.sublist_nodeIds_after,
    Flowchart.nodup_flatMap_nodes_after body, fun id hid => ?_⟩
  obtain ⟨front, line, back, hlines, hfirst⟩ :=
    Flowchart.exists_isFirstMention_iff.2 (Flowchart.mem_nodeIds_after.1 hid)
  have hlisted (k : Nat) : Flowchart.IsListed (Flowchart.after body).graph k id ↔
      Flowchart.IsInnermost front k := by
    rw [Flowchart.isListed_after_iff]
    constructor
    · rintro ⟨front', line', back', hlines', hfirst', hk⟩
      rwa [hfirst.front_unique hlines hfirst' hlines']
    · exact fun hk => ⟨front, line, back, hlines, hfirst, hk⟩
  refine ⟨front, line, back, hlines, hfirst, hlisted, ?_⟩
  rw [← Flowchart.exists_isInnermost_iff]
  exact exists_congr hlisted

/-- Subgraphs within subgraphs, two of them with one id, and closing lines that close nothing. -/
def nestedText : String :=
  "flowchart TD\nend\na --> b\nsubgraph x [Outer]\nc --> a\nsubgraph x\nd --> c\nend\n" ++
    "e\nend\nend\nf --> e\nsubgraph\ng --> [last]"

def nestedBody : List (List Char) :=
  ["end", "a --> b", "subgraph x [Outer]", "c --> a", "subgraph x", "d --> c", "end", "e", "end",
    "end", "f --> e", "subgraph", "g --> [last]"].map String.toList

theorem flowchartBody?_nestedText : flowchartBody? nestedText = some nestedBody := by
  decide +kernel

theorem subgraphs_of_read_nestedText :
    ∃ d, read nestedText = .ok d ∧ d.type = .flowchart ∧
      (d.graph.subgraphs.map fun s => (s.id, s.label)) =
        [("x", "Outer"), ("x", "x"), ("subgraph_2", "subgraph_2")] ∧
      (d.graph.subgraphs.flatMap Subgraph.nodes).Nodup ∧
      ∃ front line back, nestedBody = front ++ line :: back ∧
        Flowchart.IsFirstMention front line "e" ∧
        ∀ k, Flowchart.IsListed d.graph k "e" ↔ Flowchart.IsInnermost front k := by
  have hread : read nestedText = .ok ⟨.flowchart, Flowchart.read nestedBody⟩ := by
    rw [read_of_flowchartBody? flowchartBody?_nestedText, if_neg (by decide +kernel)]
  obtain ⟨body, hbody, hheadings, -, hnodup, hlisted⟩ := subgraphs_of_read hread rfl
  obtain rfl := Option.some.inj (flowchartBody?_nestedText.symm.trans hbody)
  obtain ⟨front, line, back, hlines, hfirst, hinnermost, -⟩ := hlisted "e" (by decide +kernel)
  refine ⟨_, hread, rfl, ?_, hnodup, front, line, back, hlines, hfirst, hinnermost⟩
  rw [hheadings]
  decide +kernel

end DiagramBridge.Mermaid
