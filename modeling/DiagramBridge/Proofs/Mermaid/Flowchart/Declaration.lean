import DiagramBridge.Mermaid.Reader
import DiagramBridge.Proofs.Diagram.Invariant
import Mathlib.Data.List.Induction

/-!
# What a flowchart declares

A node may be mentioned many times, with brackets and without. The reader keeps the node as its first
mention with brackets shows it, and remembers which nodes have had one. All that can be said without
the reader: take the mentions from top to bottom and from left to right; the nodes stand in the order
in which their ids come first, and each is shown by its first declaration.

A node without an id of its own is numbered. Which number it gets depends on the ids mentioned before
it and on nothing else.
-/

namespace DiagramBridge.Mermaid.Flowchart

open Text

/-! ## Mentions of nodes -/

/-- The nodes written on a chain, from left to right. -/
def Chain.nodeTexts (c : Chain) : List NodeText :=
  (c.first :: c.hops.map Prod.snd).filterMap NodeText.read?

/-- The nodes written in a statement. Only chains have any. -/
def Statement.nodeTexts : Statement → List NodeText
  | .chain c => c.nodeTexts
  | _ => []

/-- The nodes written on the lines of a flowchart, from top to bottom. -/
def nodeTexts (body : List (List Char)) : List NodeText :=
  body.flatMap fun line => (Statement.ofLine line).nodeTexts

theorem filterMap_read?_cons (part : List Char) (parts : List (List Char)) :
    (part :: parts).filterMap NodeText.read? =
      (NodeText.read? part).toList ++ parts.filterMap NodeText.read? := by
  rw [List.filterMap_cons]
  cases NodeText.read? part <;> rfl

/-- A mention of a node: its id, and the shape and the label if it has brackets. -/
structure Occurrence where
  id : String
  bracket : Option (Shape × List Char)
  deriving DecidableEq

/-- The mentions so far, and the number that the next node without an id tries. -/
structure Naming where
  occurrences : List Occurrence
  next : Nat

namespace Naming

def start : Naming := ⟨[], 0⟩

/-- The ids mentioned so far, in the order of their first mentions. -/
def ids (s : Naming) : List String :=
  (s.occurrences.map Occurrence.id).eraseDups

/-- The id of the next mention, and the number to try after it. A node without an id gets the first
number from there on whose id nothing has been mentioned under. -/
def name (s : Naming) (t : NodeText) : String × Nat :=
  if t.id.isEmpty then
    let n := firstFree s.ids.contains anonymousId s.ids.length s.next
    (anonymousId n, n + 1)
  else (String.ofList t.id, s.next)

/-- One more mention. -/
def add (s : Naming) (t : NodeText) : Naming where
  occurrences := s.occurrences ++ [⟨(s.name t).1, t.bracket⟩]
  next := (s.name t).2

end Naming

/-- All mentions in a flowchart, in the order in which they are read. -/
def occurrences (body : List (List Char)) : List Occurrence :=
  ((nodeTexts body).foldl Naming.add .start).occurrences

theorem nodeTexts_append (body body' : List (List Char)) :
    nodeTexts (body ++ body') = nodeTexts body ++ nodeTexts body' :=
  List.flatMap_append

/-- What was mentioned first stays in front of all that is mentioned later. -/
theorem exists_occurrences_foldl_add (s : Naming) (ts : List NodeText) :
    ∃ os, (ts.foldl Naming.add s).occurrences = s.occurrences ++ os := by
  induction ts generalizing s with
  | nil => exact ⟨[], (List.append_nil _).symm⟩
  | cons t ts ih =>
      obtain ⟨os, hos⟩ := ih (s.add t)
      refine ⟨⟨(s.name t).1, t.bracket⟩ :: os, ?_⟩
      rw [List.foldl_cons, hos, Naming.add, List.append_assoc, List.singleton_append]

theorem exists_occurrences_append (body body' : List (List Char)) :
    ∃ os, occurrences (body ++ body') = occurrences body ++ os := by
  rw [occurrences, nodeTexts_append, List.foldl_append]
  exact exists_occurrences_foldl_add _ _

/-! ## Declarations -/

/-- The mentions with brackets: the ids with the shapes and the labels. -/
def declarations (os : List Occurrence) : List (String × Shape × List Char) :=
  os.filterMap fun o => o.bracket.map (o.id, ·)

/-- The node of an id. Its first declaration tells the shape and the label; without one it is a
rectangle that shows its id. -/
def declaredNode (os : List Occurrence) (id : String) : Node :=
  match (declarations os).lookup id with
  | some (shape, label) => { id, label := String.ofList label, shape }
  | none => { id, label := id, shape := .rectangle }

/-- The nodes of all ids that are mentioned, in the order of their first mentions. -/
def declaredNodes (os : List Occurrence) : List Node :=
  (os.map Occurrence.id).eraseDups.map (declaredNode os)

section

variable {os : List Occurrence} {o : Occurrence} {id : String}

@[simp] theorem id_declaredNode : (declaredNode os id).id = id := by
  rw [declaredNode]
  split <;> rfl

theorem map_id_declaredNodes (os : List Occurrence) :
    (declaredNodes os).map Node.id = (os.map Occurrence.id).eraseDups := by
  rw [declaredNodes, List.map_map]
  exact (List.map_congr_left fun id _ => id_declaredNode).trans (List.map_id _)

theorem declaredNodes_eq_nil_iff : declaredNodes os = [] ↔ os = [] := by
  rw [declaredNodes, List.map_eq_nil_iff]
  cases os with
  | nil => exact iff_of_true rfl rfl
  | cons o os => simp [List.eraseDups_cons]

/-- A mention declares its id unless the id has been declared already. -/
theorem lookup_declarations_append_singleton :
    (declarations (os ++ [o])).lookup id =
      ((declarations os).lookup id).or (if o.id = id then o.bracket else none) := by
  have hlast : (declarations [o]).lookup id = if o.id = id then o.bracket else none := by
    rw [declarations]
    cases hbracket : o.bracket with
    | none => simp [hbracket]
    | some b =>
        by_cases hid : o.id = id
        · simp [hbracket, hid]
        · simp [hbracket, hid, List.lookup_cons, beq_eq_false_iff_ne.2 (Ne.symm hid)]
  rw [declarations, List.filterMap_append, List.lookup_append]
  exact congrArg _ hlast

theorem map_fst_declarations_sublist (os : List Occurrence) :
    ((declarations os).map Prod.fst).Sublist (os.map Occurrence.id) := by
  induction os with
  | nil => exact List.Sublist.slnil
  | cons o os ih =>
      rw [declarations, List.filterMap_cons, List.map_cons]
      cases o.bracket with
      | none => exact ih.cons _
      | some b => exact ih.cons_cons _

theorem lookup_declarations_of_not_mem (h : id ∉ os.map Occurrence.id) :
    (declarations os).lookup id = none := by
  rw [List.lookup_eq_none_iff]
  intro p hp
  obtain ⟨o, ho, hdeclares⟩ := List.mem_filterMap.1 hp
  obtain ⟨b, -, rfl⟩ := Option.map_eq_some_iff.1 hdeclares
  exact bne_iff_ne.2 fun heq => h (heq ▸ List.mem_map_of_mem ho)

theorem declaredNode_append_of_ne (h : o.id ≠ id) :
    declaredNode (os ++ [o]) id = declaredNode os id := by
  rw [declaredNode, lookup_declarations_append_singleton, if_neg h, Option.or_none, declaredNode]

/-- Later mentions do not change a node that has been declared. -/
theorem declaredNode_append_of_declared (h : ((declarations os).lookup id).isSome = true)
    (os' : List Occurrence) : declaredNode (os ++ os') id = declaredNode os id := by
  have hlookup : (declarations (os ++ os')).lookup id = (declarations os).lookup id := by
    rw [declarations, List.filterMap_append, List.lookup_append]
    exact Option.or_eq_left_of_isSome h
  rw [declaredNode, hlookup, declaredNode]

theorem eraseDups_append_singleton {l : List String} {s : String} :
    (l ++ [s]).eraseDups = if s ∈ l then l.eraseDups else l.eraseDups ++ [s] := by
  rw [List.eraseDups_append]
  split
  · next h => simp [List.removeAll, h]
  · next h => simp [List.removeAll, h, List.eraseDups_cons]

theorem nodup_eraseDups (l : List String) : l.eraseDups.Nodup := by
  induction l using List.reverseRecOn with
  | nil => exact List.nodup_nil
  | append_singleton l s ih =>
      rw [eraseDups_append_singleton]
      split
      · exact ih
      · next h =>
        refine List.nodup_append.2 ⟨ih, List.nodup_singleton s, fun a ha b hb hab => h ?_⟩
        rw [← List.mem_singleton.1 hb, ← hab]
        exact List.mem_eraseDups.1 ha

/-- The first mention of an id makes the node that it mentions. -/
def Occurrence.mention (o : Occurrence) : Mention where
  id := o.id
  label := o.bracket.map fun b => String.ofList b.2
  shape := o.bracket.map Prod.fst

theorem declaredNodes_append_of_new (h : o.id ∉ os.map Occurrence.id) :
    declaredNodes (os ++ [o]) = declaredNodes os ++ [o.mention.toNode] := by
  have hlast : declaredNode (os ++ [o]) o.id = o.mention.toNode := by
    rw [declaredNode, lookup_declarations_append_singleton, lookup_declarations_of_not_mem h,
      Option.none_or, if_pos rfl, Mention.toNode, Occurrence.mention]
    cases o.bracket <;> rfl
  have hfront : (os.map Occurrence.id).eraseDups.map (declaredNode (os ++ [o])) = declaredNodes os :=
    List.map_congr_left fun id hid => declaredNode_append_of_ne fun heq =>
      h (heq ▸ List.mem_eraseDups.1 hid)
  rw [declaredNodes, List.map_append, List.map_singleton, eraseDups_append_singleton, if_neg h,
    List.map_append, hfront, List.map_singleton, hlast]

/-- A known node takes what its first mention with brackets says. -/
theorem declaredNode_append_of_known {g : Graph}
    (hsettled : o.id ∈ g.settled ↔ ((declarations os).lookup o.id).isSome = true) :
    declaredNode (os ++ [o]) id = g.mentioned o.mention (declaredNode os id) := by
  by_cases hid : o.id = id
  · subst hid
    cases hbracket : o.bracket with
    | none =>
        have hlabel : o.mention.label = none := by rw [Occurrence.mention, hbracket, Option.map_none]
        rw [Graph.mentioned_of_bare hlabel, declaredNode, lookup_declarations_append_singleton,
          hbracket, ite_self, Option.or_none, declaredNode]
    | some b =>
        by_cases hmem : o.id ∈ g.settled
        · rw [Graph.mentioned_of_settled hmem, declaredNode, lookup_declarations_append_singleton,
            Option.or_eq_left_of_isSome (hsettled.1 hmem), declaredNode]
        · have hnone : (declarations os).lookup o.id = none := by
            rw [← Option.not_isSome_iff_eq_none]
            exact mt hsettled.2 hmem
          have hlabel : o.mention.label = some (String.ofList b.2) := by
            rw [Occurrence.mention, hbracket, Option.map_some]
          have hid : (declaredNode os o.id).id = o.mention.id := id_declaredNode
          rw [Graph.mentioned_of_labelled hlabel hid hmem, declaredNode,
            lookup_declarations_append_singleton, hnone, Option.none_or, if_pos rfl, hbracket,
            declaredNode, hnone, Occurrence.mention, hbracket]
          rfl
  · rw [Graph.mentioned_of_ne (by rw [id_declaredNode]; exact Ne.symm hid),
      declaredNode_append_of_ne hid]

end

/-! ## What the reader knows -/

/-- A graph has the nodes of some mentions, and knows which of them are declared. -/
structure Knows (g : Graph) (os : List Occurrence) : Prop where
  nodes : g.nodes = declaredNodes os
  settled : ∀ id, id ∈ g.settled ↔ ((declarations os).lookup id).isSome = true

section

variable {g : Graph} {os : List Occurrence}

theorem Knows.nodeIds (h : Knows g os) : g.nodeIds = (os.map Occurrence.id).eraseDups := by
  rw [Graph.nodeIds, h.nodes, map_id_declaredNodes]

/-- One more mention. -/
theorem Knows.mention (h : Knows g os) (o : Occurrence) :
    Knows (g.mention o.mention) (os ++ [o]) where
  nodes := by
    by_cases hknown : o.id ∈ g.nodeIds
    · have hmem : o.id ∈ os.map Occurrence.id := List.mem_eraseDups.1 (h.nodeIds ▸ hknown)
      rw [Graph.nodes_mention_of_known (Graph.hasNode_iff_mem_nodeIds.2 hknown), h.nodes,
        declaredNodes, declaredNodes, List.map_append, List.map_singleton,
        eraseDups_append_singleton, if_pos hmem, List.map_map]
      exact List.map_congr_left fun id _ => (declaredNode_append_of_known (h.settled o.id)).symm
    · have hmem : o.id ∉ os.map Occurrence.id := fun hmem =>
        hknown (h.nodeIds ▸ List.mem_eraseDups.2 hmem)
      have hnew : g.hasNode o.id = false := by
        rw [← Bool.not_eq_true, Graph.hasNode_iff_mem_nodeIds]
        exact hknown
      rw [Graph.nodes_mention_of_new hnew, h.nodes, declaredNodes_append_of_new hmem]
  settled id := by
    have hsome : o.mention.id = id ∧ o.mention.label.isSome = true ↔
        (if o.id = id then o.bracket else none).isSome = true := by
      rw [Occurrence.mention, Option.isSome_map]
      by_cases hid : o.id = id
      · rw [if_pos hid, and_iff_right hid]
      · rw [if_neg hid]
        exact iff_of_false (fun h => hid h.1) (by decide)
    rw [Graph.mem_settled_mention, hsome, h.settled, lookup_declarations_append_singleton,
      Option.isSome_or, Bool.or_eq_true]

end

/-- The reader has read some mentions. -/
structure HasRead (p : Progress) (s : Naming) : Prop where
  knows : Knows p.graph s.occurrences
  next : p.anonymous = s.next

section

variable {p : Progress} {s : Naming}

theorem hasRead_start : HasRead .start .start :=
  ⟨⟨rfl, fun id => by simp [Progress.start, Graph.empty, Naming.start, declarations]⟩, rfl⟩

/-- The reader names a node as the mentions before it tell. -/
theorem HasRead.identify_eq (h : HasRead p s) (t : NodeText) :
    p.identify t = ({ p with anonymous := (s.name t).2 }, (s.name t).1) := by
  have hids : p.graph.nodeIds = s.ids := h.knows.nodeIds
  have hlength : p.graph.nodes.length = s.ids.length := by
    rw [← hids, Graph.nodeIds, List.length_map]
  have hmem : p.graph.hasNode = s.ids.contains := by
    funext id
    rw [Bool.eq_iff_iff, Graph.hasNode_iff_mem_nodeIds, hids, List.contains_iff_mem]
  rw [Progress.identify, Naming.name, hlength, hmem, h.next]
  split
  · rfl
  · rw [← h.next]

theorem HasRead.mention (h : HasRead p s) (o : Occurrence) :
    HasRead (p.mention o.id o.bracket) { s with occurrences := s.occurrences ++ [o] } := by
  have hknows := h.knows.mention o
  rw [Progress.mention]
  split
  · exact ⟨hknows, h.next⟩
  · split
    · exact ⟨hknows, h.next⟩
    · exact ⟨⟨hknows.nodes, hknows.settled⟩, h.next⟩

theorem HasRead.readPart (h : HasRead p s) (part : List Char) :
    HasRead (p.readPart part).1 ((NodeText.read? part).toList.foldl Naming.add s) := by
  rw [Progress.readPart]
  cases NodeText.read? part with
  | none => exact h
  | some t =>
      have hnamed : HasRead { p with anonymous := (s.name t).2 } { s with next := (s.name t).2 } :=
        ⟨h.knows, rfl⟩
      dsimp only
      rw [h.identify_eq t]
      exact hnamed.mention ⟨(s.name t).1, t.bracket⟩

theorem HasRead.readHops (h : HasRead p s) (previous : Option String)
    (hops : List (Hop × List Char)) :
    HasRead (p.readHops previous hops)
      (((hops.map Prod.snd).filterMap NodeText.read?).foldl Naming.add s) := by
  induction hops generalizing p s previous with
  | nil => exact h
  | cons hop hops ih =>
      have hpart := h.readPart hop.2
      rw [Progress.readHops, List.map_cons, filterMap_read?_cons, List.foldl_append]
      apply ih
      split
      · exact ⟨⟨hpart.knows.nodes, hpart.knows.settled⟩, hpart.next⟩
      · exact hpart

theorem HasRead.readLine (h : HasRead p s) (line : List Char) :
    HasRead (p.readLine line) ((Statement.ofLine line).nodeTexts.foldl Naming.add s) := by
  rw [Progress.readLine]
  cases Statement.ofLine line with
  | skipped => exact h
  | opening id label => exact ⟨⟨h.knows.nodes, h.knows.settled⟩, h.next⟩
  | openingUnnamed => exact ⟨⟨h.knows.nodes, h.knows.settled⟩, h.next⟩
  | closing => exact ⟨h.knows, h.next⟩
  | chain c =>
      rw [Progress.step, Progress.readChain, Statement.nodeTexts, Chain.nodeTexts,
        filterMap_read?_cons, List.foldl_append]
      exact (h.readPart c.first).readHops _ c.hops

theorem HasRead.foldl_readLine (h : HasRead p s) (body : List (List Char)) :
    HasRead (body.foldl Progress.readLine p) ((nodeTexts body).foldl Naming.add s) := by
  induction body generalizing p s with
  | nil => exact h
  | cons line body ih =>
      rw [nodeTexts, List.flatMap_cons, List.foldl_append, List.foldl_cons]
      exact ih (h.readLine line)

end

/-- The nodes of a flowchart are those that its mentions declare. -/
theorem nodes_read (body : List (List Char)) :
    (read body).nodes = declaredNodes (occurrences body) :=
  (hasRead_start.foldl_readLine body).knows.nodes

end DiagramBridge.Mermaid.Flowchart
