import DiagramBridge.Proofs.Mermaid.Flowchart.LineOrder
import DiagramBridge.Proofs.Text.Fresh

/-!
# How many nodes a flowchart has

A node that is written without an id is anonymous. It gets a number that makes an id which nothing
before it has, so it is a node of its own when it is read. A later node may be written with just that
id, however, and then it is taken for the anonymous one. So the nodes are as many as the written ids
and the anonymous nodes together, less the ids that come about in both ways.
-/

namespace DiagramBridge.Mermaid

namespace Flowchart

open Text

/-! ## Written and numbered ids -/

/-- A node that is written with nothing but brackets. -/
def NodeText.IsAnonymous (t : NodeText) : Prop :=
  t.id = []

instance : DecidablePred NodeText.IsAnonymous := fun t =>
  inferInstanceAs (Decidable (t.id = []))

/-- The ids that some nodes are written with. -/
def writtenIds (ts : List NodeText) : List String :=
  ((ts.filter (¬ ·.IsAnonymous)).map fun t => String.ofList t.id).eraseDups

/-- The ids that the anonymous ones of some nodes get, behind the mentions so far. -/
def Naming.numberedIds (s : Naming) : List NodeText → List String
  | [] => []
  | t :: ts =>
    if t.IsAnonymous then (s.name t).1 :: (s.add t).numberedIds ts else (s.add t).numberedIds ts

/-- The id of a node that is written behind others. -/
def idBehind (front : List NodeText) (t : NodeText) : String :=
  ((front.foldl Naming.add .start).name t).1

/-- The numbered ids that are written as well. -/
def sharedIds (ts : List NodeText) : List String :=
  (Naming.start.numberedIds ts).filter (· ∈ writtenIds ts)

section

variable {s : Naming} {t : NodeText} {ts : List NodeText} {id : String}

theorem mem_writtenIds :
    id ∈ writtenIds ts ↔ ∃ t ∈ ts, ¬ t.IsAnonymous ∧ String.ofList t.id = id := by
  simp [writtenIds, List.mem_eraseDups, and_assoc]

theorem mem_writtenIds_cons : id ∈ writtenIds (t :: ts) ↔
    (¬ t.IsAnonymous ∧ String.ofList t.id = id) ∨ id ∈ writtenIds ts := by
  rw [mem_writtenIds, mem_writtenIds, List.exists_mem_cons_iff]

theorem nodup_writtenIds (ts : List NodeText) : (writtenIds ts).Nodup :=
  nodup_eraseDups _

theorem Naming.nodup_ids (s : Naming) : s.ids.Nodup :=
  nodup_eraseDups _

theorem anonymousId_injective : Function.Injective anonymousId := fun _ _ h =>
  decimalString_injective (append_left_cancel h)

theorem Naming.name_of_not_isAnonymous (h : ¬ t.IsAnonymous) : (s.name t).1 = String.ofList t.id := by
  rw [Naming.name, if_neg (mt List.isEmpty_iff.1 h)]

/-- The number of an anonymous node makes a new id. -/
theorem Naming.name_not_mem (h : t.IsAnonymous) : (s.name t).1 ∉ s.ids := by
  rw [Naming.name, if_pos (List.isEmpty_iff.2 h)]
  exact firstFree_not_mem anonymousId anonymousId_injective s.ids s.next

theorem Naming.mem_ids_add : id ∈ (s.add t).ids ↔ id ∈ s.ids ∨ (s.name t).1 = id := by
  rw [Naming.ids, Naming.ids, Naming.add, List.mem_eraseDups, List.mem_eraseDups, List.map_append,
    List.mem_append, List.map_singleton, List.mem_singleton, eq_comm (a := id)]

theorem Naming.length_numberedIds (s : Naming) (ts : List NodeText) :
    (s.numberedIds ts).length = ts.countP (·.IsAnonymous) := by
  induction ts generalizing s with
  | nil => rfl
  | cons t ts ih =>
      rw [Naming.numberedIds]
      by_cases h : t.IsAnonymous
      · rw [if_pos h, List.length_cons, ih, List.countP_cons_of_pos (by simpa using h)]
      · rw [if_neg h, ih, List.countP_cons_of_neg (by simpa using h)]

/-- Every mention is written or numbered. -/
theorem Naming.mem_ids_foldl_add : id ∈ (ts.foldl Naming.add s).ids ↔
    id ∈ s.ids ∨ id ∈ writtenIds ts ∨ id ∈ s.numberedIds ts := by
  induction ts generalizing s with
  | nil => simp [writtenIds, Naming.numberedIds]
  | cons t ts ih =>
      rw [List.foldl_cons, ih, Naming.mem_ids_add, mem_writtenIds_cons, Naming.numberedIds]
      by_cases h : t.IsAnonymous
      · rw [if_pos h, List.mem_cons]
        grind
      · rw [if_neg h, Naming.name_of_not_isAnonymous h]
        grind

/-- No numbered id comes twice, and none has been mentioned before. -/
theorem Naming.numberedIds_new (s : Naming) (ts : List NodeText) :
    (s.numberedIds ts).Nodup ∧ ∀ id ∈ s.numberedIds ts, id ∉ s.ids := by
  induction ts generalizing s with
  | nil => exact ⟨List.nodup_nil, by simp [Naming.numberedIds]⟩
  | cons t ts ih =>
      obtain ⟨hnodup, hnew⟩ := ih (s.add t)
      have hold : ∀ id ∈ (s.add t).numberedIds ts, id ∉ s.ids := fun id hid hmem =>
        hnew id hid (Naming.mem_ids_add.2 (.inl hmem))
      rw [Naming.numberedIds]
      split
      · next h =>
        refine ⟨List.nodup_cons.2 ⟨fun hmem => ?_, hnodup⟩, List.forall_mem_cons.2 ⟨?_, hold⟩⟩
        · exact hnew _ hmem (Naming.mem_ids_add.2 (.inr rfl))
        · exact Naming.name_not_mem h
      · exact ⟨hnodup, hold⟩

/-- The numbered ids are those of the anonymous nodes, each at its place. -/
theorem Naming.mem_numberedIds : id ∈ s.numberedIds ts ↔
    ∃ front t back, ts = front ++ t :: back ∧ t.IsAnonymous ∧
      ((front.foldl Naming.add s).name t).1 = id := by
  induction ts generalizing s with
  | nil => simp [Naming.numberedIds]
  | cons t ts ih =>
      rw [Naming.numberedIds]
      constructor
      · intro h
        have hlater : id ∈ (s.add t).numberedIds ts → ∃ front u back,
            t :: ts = front ++ u :: back ∧ u.IsAnonymous ∧
              ((front.foldl Naming.add s).name u).1 = id := by
          intro h
          obtain ⟨front, u, back, rfl, hu, hid⟩ := ih.1 h
          exact ⟨t :: front, u, back, rfl, hu, hid⟩
        split at h
        · next ht =>
          rcases List.mem_cons.1 h with rfl | h
          · exact ⟨[], t, ts, rfl, ht, rfl⟩
          · exact hlater h
        · exact hlater h
      · rintro ⟨front, u, back, heq, hu, hid⟩
        cases front with
        | nil =>
            obtain ⟨rfl, rfl⟩ := List.cons.inj heq
            rw [if_pos hu, ← hid]
            exact List.mem_cons_self
        | cons v front =>
            obtain ⟨rfl, hts⟩ := List.cons.inj heq
            have hmem := ih.2 ⟨front, u, back, hts, hu, hid⟩
            split
            · exact List.mem_cons_of_mem _ hmem
            · exact hmem

end

/-! ## The count of the ids -/

section

variable (ts : List NodeText)

/-- There are as many ids as written ids and anonymous nodes, less the shared ids. -/
theorem length_ids_add_length_sharedIds :
    (ts.foldl Naming.add .start).ids.length + (sharedIds ts).length =
      (writtenIds ts).length + ts.countP (·.IsAnonymous) := by
  obtain ⟨hnodup, -⟩ := Naming.numberedIds_new .start ts
  -- The ids are the written ones and the numbered ones that are not written.
  have hperm : (ts.foldl Naming.add .start).ids.Perm
      (writtenIds ts ++ (Naming.start.numberedIds ts).filter (· ∉ writtenIds ts)) := by
    refine (List.perm_ext_iff_of_nodup (Naming.nodup_ids _) ?_).2 fun id => ?_
    · refine List.nodup_append.2 ⟨nodup_writtenIds ts, hnodup.filter _, ?_⟩
      rintro a ha b hb rfl
      exact absurd ha (by simpa using (List.mem_filter.1 hb).2)
    · have hstart : id ∉ Naming.start.ids := by simp [Naming.ids, Naming.start]
      rw [Naming.mem_ids_foldl_add, List.mem_append, List.mem_filter]
      simp only [hstart, false_or, decide_eq_true_eq]
      by_cases hid : id ∈ writtenIds ts
      · simp [hid]
      · simp [hid]
  have hsplit := List.length_eq_length_filter_add (l := Naming.start.numberedIds ts)
    (decide <| · ∈ writtenIds ts)
  have hlength := hperm.length_eq
  rw [List.length_append] at hlength
  rw [← Naming.length_numberedIds .start ts, hsplit, hlength, sharedIds]
  simp only [decide_not]
  omega

variable {ts}

theorem mem_writtenIds_append {ts' : List NodeText} {id : String} :
    id ∈ writtenIds (ts ++ ts') ↔ id ∈ writtenIds ts ∨ id ∈ writtenIds ts' := by
  simp only [mem_writtenIds, List.mem_append, or_and_right, exists_or]

/-- What an anonymous node shares its id with is written behind it. -/
theorem sharedIds_eq_nil_iff : sharedIds ts = [] ↔ ∀ front t back, ts = front ++ t :: back →
    t.IsAnonymous → idBehind front t ∉ writtenIds back := by
  rw [sharedIds, List.filter_eq_nil_iff]
  constructor
  · intro h front t back hts ht hmem
    refine h (idBehind front t) (Naming.mem_numberedIds.2 ⟨front, t, back, hts, ht, rfl⟩) ?_
    rw [decide_eq_true_eq, hts, mem_writtenIds_append, mem_writtenIds_cons]
    exact .inr (.inr hmem)
  · intro h id hid
    obtain ⟨front, t, back, rfl, ht, rfl⟩ := Naming.mem_numberedIds.1 hid
    have hfront : idBehind front t ∉ writtenIds front := fun hmem =>
      Naming.name_not_mem ht (Naming.mem_ids_foldl_add.2 (.inr (.inl hmem)))
    rw [decide_eq_true_eq, mem_writtenIds_append, mem_writtenIds_cons]
    rintro (hmem | ⟨hnamed, -⟩ | hmem)
    · exact hfront hmem
    · exact hnamed ht
    · exact h front t back rfl ht hmem

end

theorem length_nodes_read (body : List (List Char)) :
    (read body).nodes.length = ((nodeTexts body).foldl Naming.add .start).ids.length := by
  rw [nodes_read, declaredNodes, List.length_map]
  rfl

end Flowchart

/-- **The count of the nodes.** A flowchart has one node for every id that is written in it and one
for every anonymous node, less one for every anonymous node whose number is written behind it. In
front of an anonymous node its number is neither written nor given to another one. -/
theorem length_nodes_of_read {text : String} {d : Diagram} (hread : read text = .ok d)
    (htype : d.type = .flowchart) :
    ∃ body, flowchartBody? text = some body ∧
      d.graph.nodes.length + (Flowchart.sharedIds (Flowchart.nodeTexts body)).length =
        (Flowchart.writtenIds (Flowchart.nodeTexts body)).length +
          (Flowchart.nodeTexts body).countP (·.IsAnonymous) ∧
      (d.graph.nodes.length = (Flowchart.writtenIds (Flowchart.nodeTexts body)).length +
          (Flowchart.nodeTexts body).countP (·.IsAnonymous) ↔
        ∀ front t back, Flowchart.nodeTexts body = front ++ t :: back → t.IsAnonymous →
          Flowchart.idBehind front t ∉ Flowchart.writtenIds back) ∧
      ∀ front t back, Flowchart.nodeTexts body = front ++ t :: back → t.IsAnonymous →
        Flowchart.idBehind front t ∉ (front.foldl Flowchart.Naming.add .start).ids := by
  obtain ⟨body, hbody, hgraph⟩ := exists_flowchartBody? hread htype
  have hcount := Flowchart.length_ids_add_length_sharedIds (Flowchart.nodeTexts body)
  rw [← Flowchart.length_nodes_read, ← hgraph] at hcount
  refine ⟨body, hbody, hcount, ?_, fun front t back _ ht => Flowchart.Naming.name_not_mem ht⟩
  rw [← hcount, ← Flowchart.sharedIds_eq_nil_iff, ← List.length_eq_zero_iff]
  omega

/-- Three nodes without ids. The first one is `node_0`, and so is a node on the second line. -/
def numberedText : String :=
  "flowchart TD\n[first] --> (last)\nnode_0[second] --> \x7bturn\x7d"

def numberedBody : List (List Char) :=
  ["[first] --> (last)".toList, "node_0[second] --> \x7bturn\x7d".toList]

theorem flowchartBody?_numberedText : flowchartBody? numberedText = some numberedBody := by
  decide +kernel

theorem read_numberedText :
    read numberedText = .ok ⟨.flowchart, Flowchart.read numberedBody⟩ := by
  rw [read_of_flowchartBody? flowchartBody?_numberedText, if_neg (by decide +kernel)]

theorem length_nodes_of_read_numberedText :
    ∃ d, read numberedText = .ok d ∧ d.type = .flowchart ∧ d.graph.nodes.length + 1 = 1 + 3 := by
  obtain ⟨body, hbody, hcount, -⟩ := length_nodes_of_read read_numberedText rfl
  obtain rfl := Option.some.inj (flowchartBody?_numberedText.symm.trans hbody)
  have hshared : (Flowchart.sharedIds (Flowchart.nodeTexts numberedBody)).length = 1 := by
    decide +kernel
  have hwritten : (Flowchart.writtenIds (Flowchart.nodeTexts numberedBody)).length = 1 := by
    decide +kernel
  have hanonymous : (Flowchart.nodeTexts numberedBody).countP (·.IsAnonymous) = 3 := by
    decide +kernel
  rw [hshared, hwritten, hanonymous] at hcount
  exact ⟨_, read_numberedText, rfl, hcount⟩

/-- The first node is not a node of its own, as its number is written behind it. -/
theorem length_nodes_lt_numberedText :
    ∃ d, read numberedText = .ok d ∧ d.type = .flowchart ∧
      ∃ body, flowchartBody? numberedText = some body ∧
        d.graph.nodes.length < (Flowchart.writtenIds (Flowchart.nodeTexts body)).length +
          (Flowchart.nodeTexts body).countP (·.IsAnonymous) := by
  refine ⟨_, read_numberedText, rfl, numberedBody, flowchartBody?_numberedText, ?_⟩
  decide +kernel

end DiagramBridge.Mermaid
