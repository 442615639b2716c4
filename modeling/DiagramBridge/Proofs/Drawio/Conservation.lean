import DiagramBridge.Proofs.Drawio.Fate
import DiagramBridge.Proofs.Drawio.Ordering
import Mathlib.Data.List.Permutation

/-!
# No visible cell is lost

Every visible cell has exactly one fate, and the texts of those that are merged are not lost either:
a class shows the texts of its visible parts, from top to bottom as long as every part has a height
that is a number.
-/

namespace DiagramBridge.Drawio

/-! ## What a class shows -/

/-- The visible children of a cell that have a text, in document order. -/
def textParts (cells : List Cell) (id : String) : List Cell :=
  cells.filter fun c => c.parent == some id && c.isVertex && cleanString c.value != ""

/-- A cell is above another one, or it is not below it and comes first in the document. -/
def StandsBefore (cells : List Cell) (a b : Cell) : Prop :=
  a.geometry.y.toReal.lt b.geometry.y.toReal = true ∨
    b.geometry.y.toReal.lt a.geometry.y.toReal = false ∧ [a, b].Sublist cells

/-- The texts of some cells are the members of a node, below its title. A title that is not the
label of the class itself is the first of the texts. -/
structure ShowsTexts (label : String) (n : Node) (parts : List Cell) : Prop where
  title : label ≠ "" → n.label = label
  texts : parts.map (fun c => cleanString c.value) =
    if label = "" then n.label :: n.members else n.members

theorem groupOf?_eq_some {cells : List Cell} {c : Cell} {g : Group}
    (h : groupOf? cells c = some g) :
    (cleanString c.value ≠ "" → g.title = cleanString c.value) ∧
      textsOf (rows cells c.id) =
        if cleanString c.value = "" then g.title :: g.members else g.members := by
  rw [groupOf?] at h
  split at h
  · exact absurd h (by simp)
  · split at h
    case h_1 => exact absurd h (by simp)
    case h_2 => exact absurd h (by simp)
    case h_3 title members hlabel htexts =>
      obtain rfl := Option.some.inj h
      rw [hlabel, htexts]
      exact ⟨fun hne => absurd rfl hne, rfl⟩
    case h_4 members hsome hone hmore =>
      obtain rfl := Option.some.inj h
      rw [if_neg]
      · exact ⟨fun _ => rfl, rfl⟩
      · intro hlabel
        cases htexts : textsOf (rows cells c.id) with
        | nil => exact hsome htexts
        | cons title members => exact hmore title members hlabel htexts

theorem childrenOf_eq_filter {cells : List Cell} {id : String} {c : Cell}
    (hc : c ∈ childrenOf cells id) :
    childrenOf cells id = cells.filter fun c => c.parent == some id := by
  rw [childrenOf] at hc ⊢
  split at hc
  · exact absurd hc (by simp)
  · rw [if_neg (by assumption)]

/-- The same cells from top to bottom. -/
def textRows (cells : List Cell) (id : String) : List Cell :=
  (rows cells id).filter fun c => cleanString c.value != ""

theorem map_textRows (cells : List Cell) (id : String) :
    (textRows cells id).map (fun c => cleanString c.value) = textsOf (rows cells id) := by
  rw [textRows, textsOf, List.filter_map, Function.comp_def]

section Parts

variable {cells : List Cell} {id : String} {c : Cell} (hc : c ∈ childrenOf cells id)
include hc

theorem textRows_perm : (textRows cells id).Perm (textParts cells id) := by
  have hrows := (sortByKey_perm (·.geometry.y.toReal)
    ((childrenOf cells id).filter (·.isVertex))).filter fun c => cleanString c.value != ""
  refine hrows.trans (List.Perm.of_eq ?_)
  rw [childrenOf_eq_filter hc, List.filter_filter, List.filter_filter, textParts]
  refine List.filter_congr fun d _ => ?_
  rw [Bool.and_assoc, Bool.and_comm d.isVertex, Bool.and_comm]

theorem pairwise_textRows (hnodup : cells.Nodup)
    (hnumber : ∀ d ∈ cells, d.parent = some id → d.isVertex = true →
      d.geometry.y.toReal.isNaN = false) :
    (textRows cells id).Pairwise (StandsBefore cells) := by
  have hsub : ((childrenOf cells id).filter (·.isVertex)).Sublist cells := by
    rw [childrenOf_eq_filter hc, List.filter_filter]
    exact List.filter_sublist
  have hsorted : (rows cells id).Pairwise fun a b => _ :=
    pairwise_sortByKey (fun d hd => ?_) (hsub.nodup hnodup)
  · refine (hsorted.filter _).imp fun h => h.imp_right ?_
    exact fun h => ⟨h.1, h.2.trans hsub⟩
  · obtain ⟨hd, hvertex⟩ := List.mem_filter.1 hd
    rw [childrenOf_eq_filter hc, List.mem_filter, beq_iff_eq] at hd
    exact hnumber d hd.1 hd.2 hvertex

end Parts

theorem eq_group_of_nodeOf? {cells : List Cell} (hnodup : (cells.map Cell.id).Nodup) {p : Cell}
    (hp : p ∈ cells) {g : Group} (hgroup : groupOf? cells p = some g) {n : Node}
    (hnode : nodeOf? cells p = some n) : n.label = g.title ∧ n.members = g.members := by
  cases hconsumed : isConsumed cells p.id with
  | true =>
      rw [nodeOf?, roleOf, if_pos hconsumed] at hnode
      exact absurd hnode (by simp)
  | false =>
      rw [nodeOf?, roleOf_of_groupOf? hnodup hp hgroup hconsumed] at hnode
      obtain rfl := Option.some.inj hnode
      exact ⟨rfl, rfl⟩

/-- A class of the graph shows the texts of its visible children. -/
theorem showsTexts_of_isConsumed {cells : List Cell} (hnodup : (cells.map Cell.id).Nodup)
    {c p : Cell} (hpart : IsPartOf cells c p) (hconsumed : isConsumed cells c.id = true) {n : Node}
    (hn : n ∈ (extract cells).nodes) (hid : n.id = p.id) :
    c ∈ childrenOf cells p.id ∧ ShowsTexts (cleanString p.value) n (textRows cells p.id) := by
  obtain ⟨-, q, hq, hchild, hgroup⟩ := (isConsumed_iff hnodup hpart.1).1 hconsumed
  obtain ⟨g, hgroup⟩ := Option.isSome_iff_exists.1 hgroup
  -- A cell names one parent only, and no two cells share an id.
  have hsame : q = p := eq_of_id_eq hnodup hpart.2.1 hq
    (Option.some.inj ((isPartOf_of_mem_childrenOf hq hchild).1.2.2.symm.trans hpart.2.2))
  subst hsame
  rw [nodes_extract hnodup] at hn
  obtain ⟨d, hd, hnode⟩ := List.mem_filterMap.1 hn
  have hdq : d = q := eq_of_id_eq hnodup hpart.2.1 hd ((id_of_nodeOf? hnode).symm.trans hid)
  subst hdq
  obtain ⟨hlabel, hmembers⟩ := eq_group_of_nodeOf? hnodup hd hgroup hnode
  obtain ⟨htitle, htexts⟩ := groupOf?_eq_some hgroup
  refine ⟨hchild, ⟨fun hne => hlabel.trans (htitle hne), ?_⟩⟩
  rw [map_textRows, htexts, hlabel, hmembers]

/-! ## All together -/

/-- No visible cell is lost. Each one that is no layer has exactly one fate; a class shows the texts
of its parts, in the order of their heights if these are numbers; and the visible cells of the
bottom layer are nodes. -/
theorem visible_cells_conserved {cells : List Cell} (hids : HasOwnIds cells)
    (hacyclic : IsAcyclic cells)
    (hkinds : ∀ c ∈ cells, ¬ (c.isVertex = true ∧ c.isEdge = true)) :
    (∀ c ∈ cells, c.isVertex = true → c.parent ≠ some "0" → ∃! fate, HasFate cells c fate) ∧
    (∀ c p, IsPartOf cells c p → isConsumed cells c.id = true →
      ∀ n ∈ (extract cells).nodes, n.id = p.id →
        ∃ parts, parts.Perm (textParts cells p.id) ∧ ShowsTexts (cleanString p.value) n parts ∧
          ((∀ d ∈ cells, d.parent = some p.id → d.isVertex = true →
              d.geometry.y.toReal.isNaN = false) →
            parts.Pairwise (StandsBefore cells))) ∧
    (∀ c ∈ cells, c.isVertex = true → c.parent = some "1" →
      (∀ d ∈ cells, d.id = "1" → d.isEdge = false) → IsNode cells c) := by
  refine ⟨fun c hc hvertex hlayer => ?_, fun c p hpart hconsumed n hn hid => ?_,
    fun c hc => isNode_of_layer hids hc⟩
  · obtain ⟨fate, hfate⟩ := Option.isSome_iff_exists.1 (fateOf?_isSome hvertex hlayer)
    refine ⟨fate, (hasFate_iff hids hc hacyclic hkinds fate).2 hfate, fun other hother => ?_⟩
    have hfate' := (hasFate_iff hids hc hacyclic hkinds other).1 hother
    exact Option.some.inj (hfate'.symm.trans hfate)
  · obtain ⟨hchild, hshows⟩ := showsTexts_of_isConsumed hids.nodup hpart hconsumed hn hid
    exact ⟨_, textRows_perm hchild, hshows,
      pairwise_textRows hchild (List.Nodup.of_map _ hids.nodup)⟩

/-- A cell of which nothing more is said. -/
def blankCell (id parent : String) : Cell where
  id := id
  value := ""
  style := ""
  isVertex := false
  isEdge := false
  parent := some parent
  source := none
  target := none
  isConnectable := true
  geometry := readGeometry none

/-- A visible cell with a text at some height. -/
def rowCell (id parent text : String) (y : Binary64) : Cell :=
  { blankCell id parent with
    value := text, isVertex := true, geometry := { readGeometry none with y := .real y } }

/-- A class with two rows, a box, and an edge between them with two labels. -/
def stackPage : List Cell :=
  [rowCell "stack" "1" "Stack" (.ofInt 0),
   rowCell "push" "stack" "push" (.ofInt 30),
   rowCell "pop" "stack" "pop" (.ofInt 56),
   { blankCell "link" "1" with isEdge := true, source := some "stack", target := some "log" },
   { rowCell "verb" "link" "writes to" (.ofInt 0) with isConnectable := false },
   { rowCell "time" "link" "at once" (.ofInt 1) with isConnectable := false },
   rowCell "log" "1" "Log" (.ofInt 0)]

theorem visible_cells_conserved_stackPage :
    HasOwnIds stackPage ∧ IsAcyclic stackPage ∧
      (∀ c ∈ stackPage, ¬ (c.isVertex = true ∧ c.isEdge = true)) ∧
      (∀ c ∈ stackPage, c.isVertex = true → ∃! fate, HasFate stackPage c fate) ∧
      ∃ n ∈ (extract stackPage).nodes, n.id = "stack" ∧ n.label = "Stack" ∧
        n.members = ["push", "pop"] := by
  let stack := rowCell "stack" "1" "Stack" (.ofInt 0)
  let push := rowCell "push" "stack" "push" (.ofInt 30)
  let pop := rowCell "pop" "stack" "pop" (.ofInt 56)
  have hids : HasOwnIds stackPage := ⟨by decide, by decide⟩
  have hacyclic : IsAcyclic stackPage :=
    isAcyclic_of_rank (fun c => if c.parent = some "1" then 0 else 1) (by decide)
  have hkinds : ∀ c ∈ stackPage, ¬ (c.isVertex = true ∧ c.isEdge = true) := by decide
  obtain ⟨hfates, hparts, hlayer⟩ := visible_cells_conserved hids hacyclic hkinds
  refine ⟨hids, hacyclic, hkinds, fun c hc hvertex => hfates c hc hvertex ?_, ?_⟩
  · revert c
    decide
  have hrows : rows stackPage "stack" = [push, pop] := by
    have hsorted : sortByKey (·.geometry.y.toReal) [push, pop] = [push, pop] :=
      sortByKey_of_pairwise (by decide) (by decide)
    exact hsorted
  have hconsumed : isConsumed stackPage push.id = true := by
    rw [isConsumed_iff hids.nodup (by decide)]
    refine ⟨rfl, stack, by decide, by decide, ?_⟩
    have hid : stack.id = "stack" := rfl
    rw [groupOf?, hid, hrows]
    decide +kernel
  obtain ⟨n, hn, hid⟩ := hlayer stack (by decide) rfl rfl (by decide)
  obtain ⟨parts, hperm, ⟨htitle, htexts⟩, horder⟩ :=
    hparts push stack ⟨by decide, by decide, rfl⟩ hconsumed n hn hid
  have htextParts : textParts stackPage "stack" = [push, pop] := by decide +kernel
  have hlabel : cleanString stack.value = "Stack" := by decide
  rw [hlabel] at htitle htexts
  rw [if_neg (by decide)] at htexts
  rcases List.perm_pair.1 (hperm.trans (List.Perm.of_eq htextParts)) with rfl | rfl
  · have htext : [push, pop].map (fun c => cleanString c.value) = ["push", "pop"] := by
      decide
    exact ⟨n, hn, hid, htitle (by decide), htexts.symm.trans htext⟩
  · have hbefore : StandsBefore stackPage pop push := by simpa using horder (by decide)
    exact absurd hbefore (not_or.2 ⟨by decide, fun h => absurd h.1 (by decide)⟩)

/-- A class with two rows whose order is lost, for the row between them has no height. -/
def markerPage : List Cell :=
  [rowCell "p" "1" "P" (.ofInt 0), rowCell "a" "p" "two" (.ofInt 2), rowCell "b" "p" "" .nan,
   rowCell "c" "p" "one" (.ofInt 1)]

/-- Where a row has no height, the texts of a class need not come in the order of their heights. -/
theorem not_in_order_markerPage :
    HasOwnIds markerPage ∧ IsAcyclic markerPage ∧
      (∀ c ∈ markerPage, ¬ (c.isVertex = true ∧ c.isEdge = true)) ∧
      ∃ c p, IsPartOf markerPage c p ∧ isConsumed markerPage c.id = true ∧
        ∃ n ∈ (extract markerPage).nodes, n.id = p.id ∧
          ¬ ∃ parts, parts.Perm (textParts markerPage p.id) ∧
            ShowsTexts (cleanString p.value) n parts ∧ parts.Pairwise (StandsBefore markerPage) := by
  let two := rowCell "a" "p" "two" (.ofInt 2)
  let one := rowCell "c" "p" "one" (.ofInt 1)
  have hids : HasOwnIds markerPage := ⟨by decide, by decide⟩
  have hnodes : (extract markerPage).nodes.map (fun n => (n.id, n.members)) =
      [("p", ["two", "one"])] := by decide
  obtain ⟨n, hn⟩ : ∃ n, (extract markerPage).nodes = [n] :=
    List.length_eq_one_iff.1 (by simpa using congrArg List.length hnodes)
  rw [hn, List.map_singleton, List.cons.injEq, Prod.mk.injEq] at hnodes
  refine ⟨hids, isAcyclic_of_rank (fun c => if c.parent = some "1" then 0 else 1) (by decide),
    by decide, two, rowCell "p" "1" "P" (.ofInt 0), ⟨by decide, by decide, rfl⟩,
    by decide +kernel, n, ?_, hnodes.1.1, ?_⟩
  · rw [hn]
    exact List.mem_cons_self
  · rintro ⟨parts, hperm, ⟨-, htexts⟩, horder⟩
    have htextParts : textParts markerPage "p" = [two, one] := by decide
    rw [if_neg (by decide), hnodes.1.2] at htexts
    -- The row that is shown first is the lower one.
    rcases List.perm_pair.1 (hperm.trans (List.Perm.of_eq htextParts)) with rfl | rfl
    · have hbefore : StandsBefore markerPage two one := by simpa using horder
      exact hbefore.elim (by decide) fun h => absurd h.1 (by decide)
    · exact absurd htexts (by decide)

end DiagramBridge.Drawio
