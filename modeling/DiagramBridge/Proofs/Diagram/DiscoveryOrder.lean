import DiagramBridge.Proofs.Diagram.Depth
import Mathlib.Data.List.Forall2
import Mathlib.Data.List.Pairwise
import Mathlib.Data.List.Shortlex
import Mathlib.Data.List.Sort

/-!
# The order within a layer

A way is written down as the place of its start among the nodes, followed by the places of its edges
among the valid edges. Of the ways to a node the first one is a shortest way, and among the shortest
ways it is the one that has the smaller number where they part. The search goes through a layer from
left to right and through the edges in their order, so within a layer the nodes to which ways lead
stand in the order of their first ways, and layer after layer keeps this order.

This need not be the order in which the nodes were inserted. The two orders agree in all layers
exactly if, of two nodes of one depth, the one that was inserted first has the first way that comes
first, and nodes to which no way leads were inserted behind those of the last depth. Which nodes
stand in a layer does not depend on the order of the edges, but how they stand in it does.
-/

namespace DiagramBridge.Graph

variable {g : Graph}

/-! ## First ways -/

/-- The place of a node in the order of insertion. -/
def place (g : Graph) (id : String) : Nat :=
  g.nodeIds.idxOf id

/-- The first node was inserted before the second one. -/
def Precedes (g : Graph) (a b : String) : Prop :=
  g.place a < g.place b

/-- A way to a node, written down as the place of its start and the places of its edges. -/
inductive IsWay (g : Graph) : List Nat → String → Prop
  | start {id : String} (h : g.IsStart id) : IsWay g [g.place id] id
  | step {w : List Nat} {i : Nat} {e : Edge} (h : IsWay g w e.source)
      (he : g.validEdges[i]? = some e) : IsWay g (w ++ [i]) e.target

/-- No way to the node is shorter, and none of the same length has the smaller number where the two
part. -/
structure IsFirstWay (g : Graph) (w : List Nat) (id : String) : Prop where
  isWay : g.IsWay w id
  first : ∀ v, g.IsWay v id → ¬ List.Shortlex (· < ·) v w

/-- The first way to the first node comes before the first way to the second one. -/
def IsFoundBefore (g : Graph) (a b : String) : Prop :=
  ∃ v w, g.IsFirstWay v a ∧ g.IsFirstWay w b ∧ List.Shortlex (· < ·) v w

theorem IsWay.exists_isReachedIn {w : List Nat} {id : String} (h : g.IsWay w id) :
    ∃ n, w.length = n + 1 ∧ g.IsReachedIn n id := by
  induction h with
  | start h => exact ⟨0, rfl, .start h⟩
  | step _ he ih =>
      obtain ⟨n, hlength, hreached⟩ := ih
      refine ⟨n + 1, by rw [List.length_append, hlength, List.length_singleton], ?_⟩
      exact hreached.step (List.mem_of_getElem? he)

theorem IsReachedIn.exists_isWay {n : Nat} {id : String} (h : g.IsReachedIn n id) :
    ∃ w, w.length = n + 1 ∧ g.IsWay w id := by
  induction h with
  | start h => exact ⟨_, rfl, .start h⟩
  | step _ he ih =>
      obtain ⟨w, hlength, hway⟩ := ih
      obtain ⟨i, hi⟩ := List.mem_iff_getElem?.1 he
      exact ⟨w ++ [i], by rw [List.length_append, hlength, List.length_singleton], hway.step hi⟩

theorem IsReached.exists_isFirstWay {id : String} (h : g.IsReached id) :
    ∃ w, g.IsFirstWay w id := by
  obtain ⟨n, hn⟩ := h
  obtain ⟨v, -, hv⟩ := hn.exists_isWay
  obtain ⟨w, hw, hmin⟩ := (List.Shortlex.wf Nat.lt_wfRel.wf).has_min {w | g.IsWay w id} ⟨v, hv⟩
  exact ⟨w, hw, hmin⟩

theorem HasDepth.isReached {id : String} {n : Nat} (h : g.HasDepth id n) : g.IsReached id :=
  ⟨n, h.reached⟩

theorem IsFirstWay.unique {v w : List Nat} {id : String} (hv : g.IsFirstWay v id)
    (hw : g.IsFirstWay w id) : v = w :=
  Std.Trichotomous.trichotomous (r := List.Shortlex (· < ·)) v w (hw.first v hv.isWay)
    (hv.first w hw.isWay)

theorem IsFoundBefore.asymm {a b : String} (h : g.IsFoundBefore a b) : ¬ g.IsFoundBefore b a := by
  obtain ⟨v, w, hv, hw, hlt⟩ := h
  rintro ⟨w', v', hw', hv', hgt⟩
  rw [hw'.unique hw, hv'.unique hv] at hgt
  exact Std.Asymm.asymm (r := List.Shortlex (· < ·)) _ _ hlt hgt

/-- The first way to a node is a shortest one. -/
theorem IsFirstWay.length_eq {w : List Nat} {id : String} {n : Nat} (hw : g.IsFirstWay w id)
    (hdepth : g.HasDepth id n) : w.length = n + 1 := by
  obtain ⟨m, hlength, hreached⟩ := hw.isWay.exists_isReachedIn
  obtain ⟨v, hv, hway⟩ := hdepth.reached.exists_isWay
  have hle := hdepth.shortest m hreached
  have hnot : ¬ v.length < w.length := fun hlt => hw.first v hway (.of_length_lt hlt)
  omega

theorem shortlex_append_singleton {v w : List Nat} (h : List.Shortlex (· < ·) v w) (i j : Nat) :
    List.Shortlex (· < ·) (v ++ [i]) (w ++ [j]) := by
  rcases List.shortlex_def.1 h with hlt | ⟨hlength, hlex⟩
  · exact .of_length_lt (by simpa using hlt)
  · refine .of_lex (by simpa using hlength) ?_
    clear h
    induction hlex with
    | nil => simp at hlength
    | rel h => exact .rel h
    | cons _ ih => exact .cons (ih (by simpa using hlength))

/-- In front of the last edge of a first way there is a first way. -/
theorem IsFirstWay.exists_before {w : List Nat} {id : String} {n : Nat} (hw : g.IsFirstWay w id)
    (hdepth : g.HasDepth id (n + 1)) : ∃ v e i, g.HasDepth e.source n ∧ g.IsFirstWay v e.source ∧
      g.validEdges[i]? = some e ∧ e.target = id ∧ v ++ [i] = w := by
  have hlength := hw.length_eq hdepth
  obtain ⟨hway, hfirst⟩ := hw
  cases hway with
  | start h => simp at hlength
  | @step v i e hv he =>
      obtain ⟨m, hm, hreached⟩ := hv.exists_isReachedIn
      rw [List.length_append, List.length_singleton, hm] at hlength
      obtain rfl : m = n := by omega
      refine ⟨v, e, i, ⟨hreached, fun k hk => ?_⟩, ⟨hv, fun u hu hlt => ?_⟩, he, rfl, rfl⟩
      · have hle := hdepth.shortest (k + 1) (hk.step (List.mem_of_getElem? he))
        omega
      · exact hfirst _ (hu.step he) (shortlex_append_singleton hlt i i)

/-! ## The order of insertion -/

theorem pairwise_precedes_nodeIds (g : Graph) : g.nodeIds.Pairwise g.Precedes := by
  rw [List.pairwise_iff_getElem]
  intro i j hi hj hlt
  have hnodup : g.nodeIds.Nodup := g.nodup
  rwa [Precedes, place, place, hnodup.idxOf_getElem i hi, hnodup.idxOf_getElem j hj]

theorem precedes_or_precedes {a b : String} (ha : a ∈ g.nodeIds) (hne : a ≠ b) :
    g.Precedes a b ∨ g.Precedes b a := by
  have hplace : g.place a ≠ g.place b := fun h => hne ((List.idxOf_inj ha).1 h)
  rw [Precedes, Precedes]
  omega

/-- Nodes stand in the order of insertion when each stands behind those that precede it. -/
theorem sublist_nodeIds_iff {ids : List String} (h : ids ⊆ g.nodeIds) :
    ids.Sublist g.nodeIds ↔ ids.Pairwise g.Precedes := by
  refine ⟨fun hids => g.pairwise_precedes_nodeIds.sublist hids, fun hids => ?_⟩
  have hnodup : ids.Nodup := hids.imp fun hlt heq => absurd (heq ▸ hlt) (Nat.lt_irrefl _)
  have hantisymm : Std.Antisymm g.Precedes := ⟨fun _ _ h h' => absurd h' (Nat.lt_asymm h)⟩
  exact List.sublist_of_subperm_of_pairwise (List.subperm_of_subset hnodup h) hids
    g.pairwise_precedes_nodeIds

/-! ## The first layer -/

theorem isFirstWay_of_isStart {id : String} (h : g.IsStart id) : g.IsFirstWay [g.place id] id where
  isWay := .start h
  first v hv hlt := by
    cases hv with
    | start => simp at hlt
    | step hw =>
        obtain ⟨n, hn, -⟩ := hw.exists_isReachedIn
        simp [List.shortlex_def, hn] at hlt

/-- The first layer stands in the order of insertion, which is that of the first ways there. -/
theorem pairwise_roots (g : Graph) : g.roots.Pairwise g.IsFoundBefore := by
  refine (g.pairwise_precedes_nodeIds.sublist g.roots_sublist).imp_of_mem fun ha hb hlt => ?_
  refine ⟨_, _, isFirstWay_of_isStart (mem_roots_iff.1 ha),
    isFirstWay_of_isStart (mem_roots_iff.1 hb), ?_⟩
  rwa [List.shortlex_singleton_iff]

/-! ## The ways out of a layer -/

/-- The ways that go on from a node along one edge, with the nodes to which they lead. -/
def waysOut (edges : List Edge) (way : String → List Nat) (id : String) :
    List (List Nat × String) :=
  (edges.zipIdx.filter (·.1.source == id)).map fun (e, i) => (way id ++ [i], e.target)

section WaysOut

variable {edges : List Edge} {way : String → List Nat} {id : String}

theorem map_snd_waysOut : (waysOut edges way id).map Prod.snd = successors edges id := by
  have hedges : edges.zipIdx.map Prod.fst = edges := List.zipIdx_map_fst 0 edges
  rw [waysOut, successors, List.map_map]
  conv_rhs => rw [← hedges, List.filter_map, List.map_map]
  rfl

theorem mem_waysOut {p : List Nat × String} : p ∈ waysOut edges way id ↔
    ∃ e i, edges[i]? = some e ∧ e.source = id ∧ way id ++ [i] = p.1 ∧ e.target = p.2 := by
  rw [waysOut, List.mem_map]
  constructor
  · rintro ⟨⟨e, i⟩, hmem, rfl⟩
    obtain ⟨hmem, hsource⟩ := List.mem_filter.1 hmem
    exact ⟨e, i, List.mk_mem_zipIdx_iff_getElem?.1 hmem, by simpa using hsource, rfl, rfl⟩
  · rintro ⟨e, i, he, hsource, hway, htarget⟩
    refine ⟨(e, i), List.mem_filter.2 ⟨List.mk_mem_zipIdx_iff_getElem?.2 he, ?_⟩, ?_⟩
    · simpa using hsource
    · exact Prod.ext hway htarget

theorem pairwise_waysOut :
    (waysOut edges way id).Pairwise fun p q => List.Shortlex (· < ·) p.1 q.1 := by
  have hplaces : edges.zipIdx.Pairwise fun p q => p.2 < q.2 := by
    rw [← List.pairwise_map (f := Prod.snd) (R := (· < ·)), List.zipIdx_map_snd]
    exact List.pairwise_lt_range'
  rw [waysOut, List.pairwise_map]
  refine (hplaces.filter _).imp fun hlt => .append_left ?_ _
  rwa [List.shortlex_singleton_iff]

end WaysOut

/-! ## One layer after another -/

/-- In a list of ids the first one comes in front of all occurrences of the second one. -/
def IsAheadIn (ids : List String) (a b : String) : Prop :=
  ∃ front back, ids = front ++ a :: back ∧ a ∉ front ∧ b ∉ a :: front

theorem isAheadIn_cons_self {first b : String} (hb : b ≠ first) (ids : List String) :
    IsAheadIn (first :: ids) first b :=
  ⟨[], ids, rfl, List.not_mem_nil, by simpa using hb⟩

theorem IsAheadIn.cons {ids : List String} {first a b : String} (h : IsAheadIn ids a b)
    (ha : a ≠ first) (hb : b ≠ first) : IsAheadIn (first :: ids) a b := by
  obtain ⟨front, back, rfl, hafront, hbfront⟩ := h
  refine ⟨first :: front, back, rfl, ?_, ?_⟩
  · simpa using ⟨ha, hafront⟩
  · simpa [hb] using hbfront

/-- Ids that had not been seen come in the order in which each comes for the first time. -/
theorem pairwise_unseen (seen ids : List String) :
    (unseen seen ids).Pairwise (IsAheadIn ids) := by
  induction ids generalizing seen with
  | nil => exact List.Pairwise.nil
  | cons first ids ih =>
      have hnew {seen : List String} (hfirst : first ∈ seen) {id : String}
          (hid : id ∈ unseen seen ids) : id ≠ first := by
        rintro rfl
        exact (mem_unseen.1 hid).2 hfirst
      rw [unseen]
      split
      · next hseen =>
        have hfirst : first ∈ seen := by simpa using hseen
        exact (ih seen).imp_of_mem fun ha hb h => h.cons (hnew hfirst ha) (hnew hfirst hb)
      · have hfirst : first ∈ first :: seen := List.mem_cons_self
        refine List.pairwise_cons.2 ⟨fun b hb => isAheadIn_cons_self (hnew hfirst hb) ids, ?_⟩
        exact (ih (first :: seen)).imp_of_mem fun ha hb h =>
          h.cons (hnew hfirst ha) (hnew hfirst hb)

/-- Where pairs come in the order of their keys, what comes ahead has the smaller least key. -/
theorem IsAheadIn.rel {α : Type} {r : α → α → Prop} {pairs : List (α × String)} {a b : String}
    {k l : α} (h : IsAheadIn (pairs.map Prod.snd) a b)
    (hpairs : pairs.Pairwise fun p q => r p.1 q.1) (hk : (k, a) ∈ pairs)
    (hleast : ∀ m, (m, a) ∈ pairs → ¬ r m k) (hl : (l, b) ∈ pairs) : r k l := by
  obtain ⟨front, back, heq, ha, hb⟩ := h
  obtain ⟨before, rest, rfl, rfl, hrest⟩ := List.map_eq_append_iff.1 heq
  obtain ⟨⟨m, id⟩, behind, rfl, hid, -⟩ := List.map_eq_cons_iff.1 hrest
  obtain rfl : a = id := hid.symm
  obtain ⟨hne, hb⟩ := not_or.1 (mt List.mem_cons.2 hb)
  obtain ⟨hsmaller, -⟩ := List.pairwise_cons.1 (List.pairwise_append.1 hpairs).2.1
  have hbehind {p : α × String} (hp : p ∈ before ++ (m, a) :: behind)
      (hbefore : p.2 ∉ before.map Prod.snd) : p = (m, a) ∨ p ∈ behind :=
    List.mem_cons.1 ((List.mem_append.1 hp).resolve_left fun h => hbefore (List.mem_map_of_mem h))
  have hlast : (l, b) ∈ behind :=
    (hbehind hl hb).resolve_left fun h => hne (congrArg Prod.snd h)
  rcases hbehind hk ha with heq | hmem
  · obtain rfl : k = m := congrArg Prod.fst heq
    exact hsmaller _ hlast
  · exact absurd (hsmaller _ hmem) (hleast m (by simp))

section Step

variable {depth : Nat} {seen layer : List String} {way : String → List Nat}

/-- The first ways of the next depth are among the ways out of a layer. -/
theorem IsStage.mem_waysOut_of_hasDepth (h : g.IsStage depth seen layer)
    (hway : ∀ id ∈ layer, g.IsFirstWay (way id) id) {w : List Nat} {id : String}
    (hw : g.IsFirstWay w id) (hdepth : g.HasDepth id (depth + 1)) :
    (w, id) ∈ layer.flatMap (waysOut g.validEdges way) := by
  obtain ⟨v, e, i, hsource, hv, he, htarget, rfl⟩ := hw.exists_before hdepth
  have hmem : e.source ∈ layer := (h.layer _).2 hsource
  refine List.mem_flatMap.2 ⟨e.source, hmem, mem_waysOut.2 ⟨e, i, he, rfl, ?_, htarget⟩⟩
  rw [hv.unique (hway _ hmem)]

/-- The ways out of a layer come in their order if the layer does. -/
theorem pairwise_flatMap_waysOut (hway : ∀ id ∈ layer, g.IsFirstWay (way id) id)
    (hlayer : layer.Pairwise g.IsFoundBefore) : (layer.flatMap (waysOut g.validEdges way)).Pairwise
      fun p q => List.Shortlex (· < ·) p.1 q.1 := by
  rw [List.pairwise_flatMap]
  refine ⟨fun id _ => pairwise_waysOut, hlayer.imp_of_mem fun {a b} ha hb hab p hp q hq => ?_⟩
  obtain ⟨v, w, hv, hw, hlt⟩ := hab
  obtain ⟨-, i, -, -, hp, -⟩ := mem_waysOut.1 hp
  obtain ⟨-, j, -, -, hq, -⟩ := mem_waysOut.1 hq
  rw [← hp, ← hq, (hway a ha).unique hv, (hway b hb).unique hw]
  exact shortlex_append_singleton hlt i j

/-- The layer behind a layer is in the order of the first ways again. -/
theorem IsStage.pairwise_nextLayer (h : g.IsStage depth seen layer)
    (hlayer : layer.Pairwise g.IsFoundBefore) :
    (nextLayer g.validEdges seen layer).Pairwise g.IsFoundBefore := by
  have hfirst : ∀ id ∈ layer, ∃ w, g.IsFirstWay w id := fun id hid =>
    ((h.layer id).1 hid).isReached.exists_isFirstWay
  choose! way hway using hfirst
  have hids : layer.flatMap (successors g.validEdges) =
      (layer.flatMap (waysOut g.validEdges way)).map Prod.snd := by
    rw [List.map_flatMap]
    exact List.flatMap_congr fun id _ => map_snd_waysOut.symm
  have hout := pairwise_flatMap_waysOut hway hlayer
  have hmem (id : String) (hid : id ∈ nextLayer g.validEdges seen layer) :
      ∃ w, g.IsFirstWay w id ∧ (w, id) ∈ layer.flatMap (waysOut g.validEdges way) := by
    have hdepth := h.mem_nextLayer_iff.1 hid
    obtain ⟨w, hw⟩ := hdepth.isReached.exists_isFirstWay
    exact ⟨w, hw, h.mem_waysOut_of_hasDepth hway hw hdepth⟩
  refine (pairwise_unseen seen _).imp_of_mem fun {a b} ha hb hab => ?_
  rw [hids] at hab
  obtain ⟨v, hv, hva⟩ := hmem a ha
  obtain ⟨w, hw, hwb⟩ := hmem b hb
  refine ⟨v, w, hv, hw, hab.rel hout hva (fun u hu => ?_) hwb⟩
  obtain ⟨id, hid, hu⟩ := List.mem_flatMap.1 hu
  obtain ⟨e, i, he, rfl, rfl, rfl⟩ := mem_waysOut.1 hu
  exact hv.first _ ((hway _ hid).isWay.step he)

end Step

/-- From a stage on, all layers are in the order of the first ways. -/
theorem IsStage.pairwise_of_mem_layersFrom {fuel depth : Nat} {seen layer : List String}
    (h : g.IsStage depth seen layer) (hlayer : layer.Pairwise g.IsFoundBefore) :
    ∀ row ∈ layersFrom g.validEdges fuel seen layer, row.Pairwise g.IsFoundBefore := by
  induction fuel generalizing depth seen layer with
  | zero => simpa [layersFrom] using hlayer
  | succ fuel ih =>
      rw [layersFrom]
      split
      · simpa using hlayer
      · exact List.forall_mem_cons.2 ⟨hlayer, ih h.next (h.pairwise_nextLayer hlayer)⟩

theorem pairwise_of_mem_reachedLayers : ∀ row ∈ g.reachedLayers, row.Pairwise g.IsFoundBefore :=
  isStage_roots.pairwise_of_mem_layersFrom g.pairwise_roots

/-! ## All layers -/

theorem exists_of_getElem?_extendLast {α : Type} {more layer : List α} {rows : List (List α)}
    {i : Nat} (h : (extendLast more rows)[i]? = some layer) :
    ∃ row, rows[i]? = some row ∧ (layer = row ∨ i + 1 = rows.length ∧ layer = row ++ more) := by
  induction rows generalizing i with
  | nil => simp [extendLast] at h
  | cons row rows ih =>
      cases rows with
      | nil =>
          obtain ⟨rfl, rfl⟩ : i = 0 ∧ row ++ more = layer := by
            cases i <;> simp_all [extendLast]
          exact ⟨row, rfl, .inr ⟨rfl, rfl⟩⟩
      | cons next rows =>
          rw [extendLast_cons_cons] at h
          cases i with
          | zero => exact ⟨row, rfl, .inl (Option.some.inj h).symm⟩
          | succ i => simpa using ih h

/-- A layer as the nodes of its depth in the order of their first ways and, if it is the last one,
the nodes to which no way leads in the order of insertion. -/
structure IsRow (g : Graph) (i : Nat) (layer found late : List String) : Prop where
  eq_append : layer = found ++ late
  hasDepth : ∀ id ∈ found, g.HasDepth id i
  pairwise : found.Pairwise g.IsFoundBefore
  sublist : late.Sublist g.nodeIds
  unreached : ∀ id ∈ late, ¬ g.IsReached id ∧ i + 1 = g.layers.length

theorem exists_isRow {i : Nat} {layer : List String} (h : g.layers[i]? = some layer) :
    ∃ found late, g.IsRow i layer found late := by
  rw [layers] at h
  split at h
  · simp at h
  · next hsome =>
    have hlength : g.layers.length = g.reachedLayers.length := by
      rw [layers, if_neg hsome, length_extendLast]
    obtain ⟨row, hrow, hlayer⟩ := exists_of_getElem?_extendLast h
    have hdepth : ∀ id ∈ row, g.HasDepth id i := fun id hid =>
      mem_reachedLayers_iff.1 ⟨row, hrow, hid⟩
    have hpairwise := pairwise_of_mem_reachedLayers row (List.mem_of_getElem? hrow)
    rcases hlayer with rfl | ⟨hlast, rfl⟩
    · refine ⟨layer, [], ?_, hdepth, hpairwise, List.nil_sublist _, by simp⟩
      exact (List.append_nil layer).symm
    · refine ⟨row, g.unreached, rfl, hdepth, hpairwise, List.filter_sublist, fun id hid => ?_⟩
      exact ⟨(mem_unreached_iff.1 hid).2, hlast.trans hlength.symm⟩

/-! ## When the layers keep the order of insertion -/

/-- The order in which nodes are found is the order of insertion wherever a layer shows it. -/
structure KeepsInsertionOrder (g : Graph) : Prop where
  /-- Of two nodes of one depth the one that was inserted first is found first. -/
  found : ∀ a b n, g.HasDepth a n → g.HasDepth b n → g.Precedes a b → g.IsFoundBefore a b
  /-- Nodes to which no way leads were inserted behind those of the last depth. -/
  unreached : ∀ a b n, g.HasDepth a n → (∀ other, ¬ g.HasDepth other (n + 1)) → b ∈ g.nodeIds →
    ¬ g.IsReached b → g.Precedes a b

/-- Two orders of one list agree on its members. -/
theorem rel_of_pairwise {α : Type} {r s : α → α → Prop} {l : List α} (hr : l.Pairwise r)
    (hs : l.Pairwise s) (hasymm : ∀ a b, s a b → ¬ s b a) {a b : α} (ha : a ∈ l) (hb : b ∈ l)
    (hab : s a b) : r a b := by
  have hsymm : Std.Symm fun a b => (s a b → r a b) ∧ (s b a → r b a) := ⟨fun _ _ => And.symm⟩
  have hagree : l.Pairwise fun a b => (s a b → r a b) ∧ (s b a → r b a) :=
    (hr.and hs).imp fun h => ⟨fun _ => h.1, fun h' => absurd h' (hasymm _ _ h.2)⟩
  exact (hagree.forall ha hb fun heq => hasymm a b hab (heq ▸ hab)).1 hab

section Row

variable {i : Nat} {layer found late : List String} (h : g.IsRow i layer found late)
include h

theorem IsRow.subset : layer ⊆ g.nodeIds := by
  rw [h.eq_append]
  exact List.append_subset.2 ⟨fun id hid => (h.hasDepth id hid).reached.mem_nodeIds,
    h.sublist.subset⟩

theorem IsRow.mem_found_iff {id : String} : id ∈ found ↔ id ∈ layer ∧ g.IsReached id := by
  rw [h.eq_append, List.mem_append]
  refine ⟨fun hid => ⟨.inl hid, (h.hasDepth id hid).isReached⟩, fun hid => ?_⟩
  exact hid.1.resolve_right fun hlate => (h.unreached id hlate).1 hid.2

theorem IsRow.sublist_iff : layer.Sublist g.nodeIds ↔
    found.Pairwise g.Precedes ∧ ∀ a ∈ found, ∀ b ∈ late, g.Precedes a b := by
  have hlate := (sublist_nodeIds_iff h.sublist.subset).1 h.sublist
  rw [sublist_nodeIds_iff h.subset, h.eq_append, List.pairwise_append]
  exact ⟨fun h => ⟨h.1, h.2.2⟩, fun h => ⟨h.1, hlate, h.2⟩⟩

end Row

theorem KeepsInsertionOrder.sublist (hkeeps : g.KeepsInsertionOrder) {layer : List String}
    (hlayer : layer ∈ g.layers) : layer.Sublist g.nodeIds := by
  obtain ⟨i, hi⟩ := List.mem_iff_getElem?.1 hlayer
  obtain ⟨found, late, h⟩ := exists_isRow hi
  refine h.sublist_iff.2 ⟨h.pairwise.imp_of_mem fun {a b} ha hb hab => ?_, fun a ha b hb => ?_⟩
  · have hne : a ≠ b := fun heq => hab.asymm (heq ▸ hab)
    have hmem : a ∈ g.nodeIds := (h.hasDepth a ha).reached.mem_nodeIds
    refine (precedes_or_precedes hmem hne).resolve_right fun hba => ?_
    exact hab.asymm (hkeeps.found b a i (h.hasDepth b hb) (h.hasDepth a ha) hba)
  · obtain ⟨hnot, hlast⟩ := h.unreached b hb
    refine hkeeps.unreached a b i (h.hasDepth a ha) (fun other hother => ?_)
      (h.sublist.subset hb) hnot
    exact absurd (lt_length_layers_iff.2 ⟨other, hother⟩) (by omega)

theorem keepsInsertionOrder_of_sublist (hall : ∀ layer ∈ g.layers, layer.Sublist g.nodeIds) :
    g.KeepsInsertionOrder := by
  have hrow {i : Nat} {layer : List String} (hlayer : g.layers[i]? = some layer) :
      ∃ found late, g.IsRow i layer found late ∧ found.Pairwise g.Precedes ∧
        ∀ a ∈ found, ∀ b ∈ late, g.Precedes a b := by
    obtain ⟨found, late, h⟩ := exists_isRow hlayer
    exact ⟨found, late, h, h.sublist_iff.1 (hall _ (List.mem_of_getElem? hlayer))⟩
  refine ⟨fun a b n ha hb hab => ?_, fun a b n ha hnone hb hnot => ?_⟩
  · obtain ⟨layer, hlayer, hamem⟩ := mem_layers_iff.2 (.inl ha)
    have hbmem : b ∈ layer := (mem_iff_of_getElem?_layers hlayer).2 (.inl hb)
    obtain ⟨found, late, h, hfound, -⟩ := hrow hlayer
    exact rel_of_pairwise h.pairwise hfound (fun _ _ => Nat.lt_asymm)
      (h.mem_found_iff.2 ⟨hamem, ha.isReached⟩) (h.mem_found_iff.2 ⟨hbmem, hb.isReached⟩) hab
  · have hlast : n + 1 = g.layers.length := by
      have hlt : n < g.layers.length := lt_length_layers_iff.2 ⟨a, ha⟩
      have hnot : ¬ n + 1 < g.layers.length := fun h =>
        (lt_length_layers_iff.1 h).elim hnone
      omega
    obtain ⟨layer, hlayer, hamem⟩ := mem_layers_iff.2 (.inl ha)
    have hbmem : b ∈ layer := (mem_iff_of_getElem?_layers hlayer).2 (.inr ⟨hlast, hb, hnot⟩)
    obtain ⟨found, late, h, -, hlate⟩ := hrow hlayer
    refine hlate a (h.mem_found_iff.2 ⟨hamem, ha.isReached⟩) b ?_
    rw [h.eq_append] at hbmem
    exact (List.mem_append.1 hbmem).resolve_left fun hb => hnot (h.hasDepth b hb).isReached

/-! ## The order of the edges -/

/-- What stands in a layer does not depend on the order of the edges. -/
theorem forall₂_perm_layers {other : Graph} (hids : other.nodeIds = g.nodeIds)
    (hedges : ∀ e, e ∈ other.validEdges ↔ e ∈ g.validEdges) :
    List.Forall₂ List.Perm other.layers g.layers := by
  have hlength : other.layers.length = g.layers.length := by
    have hlt (i : Nat) : i < other.layers.length ↔ i < g.layers.length := by
      simp only [lt_length_layers_iff, hasDepth_congr hids hedges]
    have hle := hlt other.layers.length
    have hge := hlt g.layers.length
    omega
  have hreached (id : String) : other.IsReached id ↔ g.IsReached id :=
    exists_congr fun n => isReachedIn_congr hids hedges
  rw [List.forall₂_iff_get]
  refine ⟨hlength, fun i hi hi' => ?_⟩
  have hnodup (g : Graph) (hi : i < g.layers.length) : (g.layers.get ⟨i, hi⟩).Nodup :=
    (List.nodup_flatten.1 g.nodup_flatten_layers).1 _ (List.get_mem ..)
  rw [List.perm_ext_iff_of_nodup (hnodup other hi) (hnodup g hi')]
  intro id
  rw [List.get_eq_getElem, List.get_eq_getElem,
    mem_iff_of_getElem?_layers (List.getElem?_eq_getElem hi),
    mem_iff_of_getElem?_layers (List.getElem?_eq_getElem hi'), hasDepth_congr hids hedges, hlength,
    hids, hreached]

/-- **The order within a layer.** A layer holds the nodes of its depth in the order of their first
ways, and behind them, if it is the last one, the nodes to which no way leads in the order of
insertion. All layers are in the order of insertion exactly if the nodes of each depth are found in
this order and those to which no way leads were inserted behind those of the last depth. Another
order of the edges rearranges the nodes within the layers and does no more. -/
theorem layers_in_order_of_first_ways (g : Graph) :
    (∀ i layer, g.layers[i]? = some layer → ∃ found late, layer = found ++ late ∧
        (∀ id ∈ found, g.HasDepth id i) ∧ found.Pairwise g.IsFoundBefore ∧
          (∀ id ∈ late, ¬ g.IsReached id ∧ i + 1 = g.layers.length) ∧ late.Sublist g.nodeIds) ∧
      ((∀ layer ∈ g.layers, layer.Sublist g.nodeIds) ↔ g.KeepsInsertionOrder) ∧
        ∀ other : Graph, other.nodeIds = g.nodeIds → other.edges.Perm g.edges →
          List.Forall₂ List.Perm other.layers g.layers := by
  refine ⟨fun i layer hlayer => ?_, ?_, fun other hids hedges => ?_⟩
  · obtain ⟨found, late, h⟩ := exists_isRow hlayer
    exact ⟨found, late, h.eq_append, h.hasDepth, h.pairwise, h.unreached, h.sublist⟩
  · exact ⟨keepsInsertionOrder_of_sublist, fun hkeeps _ => hkeeps.sublist⟩
  · refine forall₂_perm_layers hids fun e => ?_
    rw [mem_validEdges, mem_validEdges, hedges.mem_iff, hids]

/-- A node that leads to two others, to the one that was inserted last first. -/
def crossedGraph : Graph where
  nodes := [{ id := "A", label := "A" }, { id := "B", label := "B" }, { id := "C", label := "C" }]
  edges :=
    [{ id := "e", source := "A", target := "C" }, { id := "f", source := "A", target := "B" }]
  subgraphs := []
  settled := []
  nodup := by decide

/-- The row of the two nodes depends on the order of the edges. -/
theorem not_sublist_layers_crossedGraph :
    crossedGraph.nodeIds = ["A", "B", "C"] ∧ crossedGraph.layers = [["A"], ["C", "B"]] ∧
      ¬ (∀ layer ∈ crossedGraph.layers, layer.Sublist crossedGraph.nodeIds) ∧
        { crossedGraph with edges := crossedGraph.edges.reverse }.layers = [["A"], ["B", "C"]] := by
  have hlayers : crossedGraph.layers = [["A"], ["C", "B"]] := by decide
  refine ⟨by decide, hlayers, fun hall => ?_, by decide⟩
  have hrow : ["C", "B"].Sublist crossedGraph.nodeIds := hall _ (by rw [hlayers]; simp)
  exact absurd hrow (by decide)

end DiagramBridge.Graph
