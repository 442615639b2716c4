import DiagramBridge.Proofs.Diagram.Layout
import DiagramBridge.Proofs.Number.Binary64
import Mathlib.Algebra.Order.Ring.Cast
import Mathlib.Algebra.Order.Ring.Rat
import Mathlib.Data.Set.Prod
import Mathlib.Order.CompletePartialOrder
import Mathlib.Order.Interval.Set.Basic

/-!
# Where the layout puts boxes

When no node has a usable box, the layout makes the whole picture. Its boxes have one size. Those of
one layer stand in one row, a column or more apart; those of different layers stand a number of rows
apart. A row is higher and a column is wider than a box, so no two boxes have a point in common.
Boxes are taken as rectangles of the rational plane.
-/

namespace DiagramBridge

/-! ## Rectangles -/

/-- The position and the size of something drawn. -/
structure Rect where
  x : Int
  y : Int
  width : Nat
  height : Nat
  deriving DecidableEq

namespace Rect

/-- The points of a rectangle, its border included. -/
def points (r : Rect) : Set (ℚ × ℚ) :=
  Set.Icc (r.x : ℚ) (r.x + r.width : ℤ) ×ˢ Set.Icc (r.y : ℚ) (r.y + r.height : ℤ)

theorem disjoint_Icc_iff {a b : Int} {m n : Nat} :
    Disjoint (Set.Icc (a : ℚ) (a + m : ℤ)) (Set.Icc (b : ℚ) (b + n : ℤ)) ↔
      a + m < b ∨ b + n < a := by
  rw [Set.disjoint_iff_inter_eq_empty, Set.Icc_inter_Icc, Set.Icc_eq_empty_iff, sup_le_iff,
    le_inf_iff, le_inf_iff]
  simp only [Int.cast_le]
  omega

/-- Rectangles have no point in common if one is to the left of the other one or above it. -/
theorem disjoint_points_iff {r s : Rect} : Disjoint r.points s.points ↔
    (r.x + r.width < s.x ∨ s.x + s.width < r.x) ∨
      (r.y + r.height < s.y ∨ s.y + s.height < r.y) := by
  rw [points, points, Set.disjoint_prod, disjoint_Icc_iff, disjoint_Icc_iff]

end Rect

/-! ## Boxes as rectangles -/

/-- The numbers of a box are exactly those of a rectangle. -/
structure Geometry.IsRect (box : Geometry) (r : Rect) : Prop where
  x : box.x.toReal = .ofInt r.x
  y : box.y.toReal = .ofInt r.y
  width : box.width.toReal = .ofInt r.width
  height : box.height.toReal = .ofInt r.height

theorem Geometry.IsRect.unique {box : Geometry} {r s : Rect} (hr : box.IsRect r)
    (hs : box.IsRect s) : r = s := by
  obtain ⟨x, y, width, height⟩ := r
  obtain ⟨x', y', width', height'⟩ := s
  have hx : x = x' := Binary64.ofInt_injective (hr.x.symm.trans hs.x)
  have hy : y = y' := Binary64.ofInt_injective (hr.y.symm.trans hs.y)
  have hwidth : width = width' :=
    Int.ofNat_inj.1 (Binary64.ofInt_injective (hr.width.symm.trans hs.width))
  have hheight : height = height' :=
    Int.ofNat_inj.1 (Binary64.ofInt_injective (hr.height.symm.trans hs.height))
  rw [hx, hy, hwidth, hheight]

/-- The box of a node is a rectangle. -/
def Node.Occupies (n : Node) (r : Rect) : Prop :=
  ∃ box ∈ n.geometry, box.IsRect r

theorem Node.Occupies.unique {n : Node} {r s : Rect} (hr : n.Occupies r) (hs : n.Occupies s) :
    r = s := by
  obtain ⟨box, hbox, hr⟩ := hr
  obtain ⟨box', hbox', hs⟩ := hs
  obtain rfl : box = box' := Option.some.inj (hbox.symm.trans hbox')
  exact hr.unique hs

/-- A node stands in the layer at a depth. -/
def Graph.IsInLayer (g : Graph) (depth : Nat) (n : Node) : Prop :=
  ∃ ids, g.layers[depth]? = some ids ∧ n.id ∈ ids

namespace Layout

/-! ## The grid -/

/-- The rectangle of a box in a place. -/
def boxRect (place : Place) : Rect where
  x := place.x
  y := place.y
  width := boxWidth
  height := boxHeight

theorem isRect_box (place : Place) : (box place).IsRect (boxRect place) :=
  ⟨rfl, rfl, rfl, rfl⟩

theorem ten_dvd_column (length i : Nat) : 10 ∣ column length i := by
  simp only [column, centre, columnPitch]
  omega

theorem ten_dvd_shift (g : Graph) : 10 ∣ shift (centredPlaces g) := by
  rw [shift]
  cases hleast : ((centredPlaces g).map (·.2.x)).min? with
  | none => exact Int.dvd_zero 10
  | some least =>
      obtain ⟨p, hp, rfl⟩ := List.mem_map.1 (List.min?_eq_some_iff.1 hleast).1
      obtain ⟨⟨ids, depth⟩, -, hp⟩ := List.mem_flatMap.1 hp
      obtain ⟨⟨id, i⟩, -, rfl⟩ := List.mem_map.1 hp
      have hcolumn := ten_dvd_column ids.length i
      dsimp only [margin]
      split <;> omega

theorem ten_dvd_placeAt (g : Graph) (depth length i : Nat) :
    10 ∣ (placeAt g depth length i).x ∧ 10 ∣ (placeAt g depth length i).y := by
  have hcolumn := ten_dvd_column length i
  have hshift := ten_dvd_shift g
  simp only [placeAt, row, margin, rowPitch]
  omega

/-- Two places of a row are a column apart at least. -/
theorem le_abs_sub_placeAt (g : Graph) (depth length : Nat) {i j : Nat} (h : i ≠ j) :
    180 ≤ |(placeAt g depth length i).x - (placeAt g depth length j).x| := by
  simp only [placeAt, column, columnPitch]
  rw [le_abs]
  omega

/-- The way from one row to another is a number of rows. -/
theorem placeAt_sub_placeAt (g : Graph) (depth length i depth' length' j : Nat) :
    (placeAt g depth length i).y - (placeAt g depth' length' j).y =
      120 * ((depth : Int) - depth') := by
  simp only [placeAt, row, margin, rowPitch]
  omega

theorem disjoint_boxRect_of_columns {p q : Place} (h : 180 ≤ |p.x - q.x|) :
    Disjoint (boxRect p).points (boxRect q).points := by
  rw [Rect.disjoint_points_iff]
  simp only [boxRect, boxWidth]
  rw [le_abs] at h
  omega

theorem disjoint_boxRect_of_rows {p q : Place} {k : Int} (hk : k ≠ 0) (h : p.y - q.y = 120 * k) :
    Disjoint (boxRect p).points (boxRect q).points := by
  rw [Rect.disjoint_points_iff]
  simp only [boxRect, boxHeight]
  omega

end Layout

open Layout

/-! ## The picture -/

namespace Graph

variable {g : Graph}

theorem IsInLayer.eq_of_standsAt {n : Node} {depth depth' i : Nat} {ids : List String}
    (hlayer : g.IsInLayer depth' n) (hi : g.StandsAt n.id depth ids i) : depth' = depth := by
  obtain ⟨ids', hids', hid⟩ := hlayer
  obtain ⟨j, hj⟩ := List.mem_iff_getElem?.1 hid
  exact depth_eq_of_standsAt ⟨hids', hj⟩ hi

section

variable (hplain : ∀ n ∈ g.nodes, n.isPlaced = false)
include hplain

/-- Every node gets the box of its place. -/
theorem exists_occupies_of_mem_layout {n : Node} (hn : n ∈ g.layout.nodes) :
    ∃ depth ids i, g.StandsAt n.id depth ids i ∧
      n.Occupies (boxRect (placeAt g depth ids.length i)) := by
  rw [nodes_layout] at hn
  obtain ⟨m, hm, rfl⟩ := List.mem_map.1 hn
  obtain ⟨depth, ids, i, hi⟩ := exists_standsAt (List.mem_map_of_mem (f := Node.id) hm)
  refine ⟨depth, ids, i, (id_settleNode _ m).symm ▸ hi, ?_⟩
  rw [settleNode_of_standsAt (hplain m hm) hi]
  exact ⟨_, rfl, isRect_box _⟩

/-- **The picture of a graph.** When no node has a usable box, the layout puts every node into a
layer and gives it a box. All boxes are 120 wide and 60 high, and stand at positive multiples of 10.
Boxes of one layer have their upper edges on one line and their left edges 180 apart at least; the
upper edges of boxes of different layers are a multiple of 120 apart, other than zero. No two boxes
have a point in common. -/
theorem disjoint_points_of_layout :
    (∀ n ∈ g.layout.nodes, (∃ depth, g.IsInLayer depth n) ∧ ∃ r, n.Occupies r) ∧
      (∀ n ∈ g.layout.nodes, ∀ r, n.Occupies r →
        r.width = 120 ∧ r.height = 60 ∧ 0 < r.x ∧ 0 < r.y ∧ 10 ∣ r.x ∧ 10 ∣ r.y) ∧
      ∀ n ∈ g.layout.nodes, ∀ m ∈ g.layout.nodes, n ≠ m →
        ∀ r s, n.Occupies r → m.Occupies s →
          (∀ depth, g.IsInLayer depth n → g.IsInLayer depth m →
            r.y = s.y ∧ 180 ≤ |r.x - s.x|) ∧
          (∀ depth depth', depth ≠ depth' → g.IsInLayer depth n → g.IsInLayer depth' m →
            ∃ k, k ≠ 0 ∧ r.y - s.y = 120 * k) ∧
          Disjoint r.points s.points := by
  refine ⟨fun n hn => ?_, fun n hn r hr => ?_, fun n hn m hm hne r s hr hs => ?_⟩
  · obtain ⟨depth, ids, i, hi, hbox⟩ := exists_occupies_of_mem_layout hplain hn
    exact ⟨⟨depth, ids, hi.1, List.mem_of_getElem? hi.2⟩, _, hbox⟩
  · obtain ⟨depth, ids, i, hi, hbox⟩ := exists_occupies_of_mem_layout hplain hn
    obtain rfl := hr.unique hbox
    obtain ⟨hx, hy⟩ := placeAt_pos hi
    obtain ⟨htenx, hteny⟩ := ten_dvd_placeAt g depth ids.length i
    exact ⟨rfl, rfl, hx, hy, htenx, hteny⟩
  · obtain ⟨depth, ids, i, hi, hbox⟩ := exists_occupies_of_mem_layout hplain hn
    obtain ⟨depth', ids', j, hj, hbox'⟩ := exists_occupies_of_mem_layout hplain hm
    obtain rfl := hr.unique hbox
    obtain rfl := hs.unique hbox'
    have hrows (hdepth : depth ≠ depth') : ∃ k, k ≠ 0 ∧
        (placeAt g depth ids.length i).y - (placeAt g depth' ids'.length j).y = 120 * k :=
      ⟨(depth : Int) - depth', by omega, placeAt_sub_placeAt ..⟩
    have hcolumns (hdepth : depth = depth') :
        (placeAt g depth ids.length i).y = (placeAt g depth' ids'.length j).y ∧
          180 ≤ |(placeAt g depth ids.length i).x - (placeAt g depth' ids'.length j).x| := by
      subst hdepth
      obtain rfl : ids = ids' := Option.some.inj (hi.1.symm.trans hj.1)
      refine ⟨rfl, le_abs_sub_placeAt g depth ids.length fun hij => hne ?_⟩
      exact eq_of_id_eq hn hm (Option.some.inj (hi.2.symm.trans (hij ▸ hj.2)))
    refine ⟨fun d hd hd' => ?_, fun d d' hdd hd hd' => ?_, ?_⟩
    · exact hcolumns ((hd.eq_of_standsAt hi).symm.trans (hd'.eq_of_standsAt hj))
    · rw [hd.eq_of_standsAt hi, hd'.eq_of_standsAt hj] at hdd
      exact hrows hdd
    · by_cases hdepth : depth = depth'
      · exact disjoint_boxRect_of_columns (hcolumns hdepth).2
      · obtain ⟨k, hk, hy⟩ := hrows hdepth
        exact disjoint_boxRect_of_rows hk hy

end

/-- A node that leads to two others, one of which has a box without area. -/
def forkGraph : Graph where
  nodes := [{ id := "A", label := "A" }, { id := "B", label := "B" },
    { id := "C", label := "C", geometry := some ⟨.whole 7, .whole 7, .whole 0, .whole 60⟩ }]
  edges := [{ id := "e", source := "A", target := "B" }, { id := "f", source := "A", target := "C" }]
  subgraphs := []
  settled := []
  nodup := by decide

theorem disjoint_points_of_layout_forkGraph :
    (∀ n ∈ forkGraph.nodes, n.isPlaced = false) ∧ forkGraph.layers = [["A"], ["B", "C"]] ∧
      ∀ n ∈ forkGraph.layout.nodes, ∀ m ∈ forkGraph.layout.nodes, n ≠ m →
        ∃ r s, n.Occupies r ∧ m.Occupies s ∧ Disjoint r.points s.points := by
  have hplain : ∀ n ∈ forkGraph.nodes, n.isPlaced = false := by decide
  obtain ⟨hboxes, -, hpairs⟩ := disjoint_points_of_layout hplain
  refine ⟨hplain, by decide, fun n hn m hm hne => ?_⟩
  obtain ⟨-, r, hr⟩ := hboxes n hn
  obtain ⟨-, s, hs⟩ := hboxes m hm
  exact ⟨r, s, hr, hs, (hpairs n hn m hm hne r s hr hs).2.2⟩

end Graph

end DiagramBridge
