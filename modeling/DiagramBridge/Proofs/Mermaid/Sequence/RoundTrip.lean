import DiagramBridge.Mermaid.Reader
import DiagramBridge.Mermaid.Writer
import DiagramBridge.Proofs.Mermaid.Identifier
import DiagramBridge.Proofs.Mermaid.Run
import DiagramBridge.Proofs.Mermaid.Sequence.WrittenLine

/-!
# Written sequence diagrams are read back

Every node is declared before the first message, so a declaration appends its participant and a
message finds both its ends. The reader keeps nothing but the graph from one line to the next. Of the
labels nothing is asked but that they keep their ends.
-/

namespace DiagramBridge.Mermaid.Sequence

open Text

/-! ## Lines -/

/-- Carries out the statement of a line, if there is one on it. -/
def readLine (g : Graph) (line : List Char) : Graph :=
  match Statement.ofLine? line with
  | some s => step g s
  | none => g

theorem read_eq_foldl (body : List (List Char)) : read body = body.foldl readLine .empty := by
  rw [read, List.foldl_filterMap]
  refine congrArg (fun f => body.foldl f Graph.empty) (funext fun g => funext fun line => ?_)
  rw [readLine]
  cases Statement.ofLine? line <;> rfl

/-- A graph followed by another one that has some nodes and edges more. -/
abbrev AppendsTo (g g' : Graph) (ns : List Node) (es : List Edge) : Prop :=
  Appends (fun g => g) (fun _ => True) g g' ns es

theorem appends_participantStatement {g : Graph} {id : String} {n : Node} (hne : id.toList ≠ [])
    (hid : ∀ c ∈ id.toList, isWord c = true) (hnew : g.hasNode id = false) :
    AppendsTo g (readLine g (participantStatement id n)) [shownParticipant id n] [] := by
  have hline : readLine g (participantStatement id n) = g.mention
      { id, label := some (shownParticipant id n).label
        shape := some (if n.shape = .circle then .circle else .rectangle) } := by
    rw [readLine, ofLine?_participantStatement hne hid]
    simp only [step, String.ofList_toList, decide_eq_true_eq]
  rw [hline]
  exact ⟨trivial, Graph.nodes_mention_of_new hnew, by rw [Graph.edges_mention, List.append_nil]⟩

theorem appends_messageStatement {g : Graph} {ids : String → String} {e : Edge}
    (he : HasWordEnds g ids e) :
    AppendsTo g (readLine g (messageStatement (ids e.source) (ids e.target) e)) []
      [shownMessage ids g.edges.length e] := by
  have hmention : ∀ i, g.hasNode i = true → g.mention { id := i } = g :=
    fun i hi => Graph.nodes_mention_of_bare hi rfl
  have hline : readLine g (messageStatement (ids e.source) (ids e.target) e) = g.link
      { source := ids e.source, target := ids e.target
        label := (shownMessage ids g.edges.length e).label
        lineStyle := if e.lineStyle = .dashed then .dashed else .plain } := by
    rw [readLine, ofLine?_messageStatement he.source he.wordSource he.target he.wordTarget]
    simp only [step, String.ofList_toList, messageText_eq ids g.edges.length e,
      hmention _ he.hasSource, hmention _ he.hasTarget, decide_eq_true_eq]
  rw [hline]
  exact ⟨trivial, (List.append_nil _).symm, rfl⟩

/-! ## Whole texts -/

/-- The statements of a written sequence diagram below its header. -/
def body (g : Graph) : List (List Char) :=
  g.nodes.map (fun n => participantStatement (idOf g n.id) n) ++
    g.validEdges.map fun e => messageStatement (idOf g e.source) (idOf g e.target) e

theorem read_body (g : Graph) :
    (read (body g)).nodes = g.nodes.map (fun n => shownParticipant (idOf g n.id) n) ∧
      (read (body g)).edges = g.validEdges.mapIdx (shownMessage (idOf g)) := by
  have hnode : ∀ g' : Graph, ∀ n ∈ g.nodes, True → g'.hasNode (idOf g n.id) = false →
      AppendsTo g' (readLine g' (participantStatement (idOf g n.id) n))
        [shownParticipant (idOf g n.id) n] [] := by
    intro g' n hn _ hnew
    have hid : n.id ∈ g.nodeIds := List.mem_map_of_mem hn
    exact appends_participantStatement (idOf_toList_ne_nil hid) (fun c => isWord_of_mem_idOf hid)
      hnew
  have hedge : ∀ g' : Graph, ∀ e ∈ g.validEdges, True →
      g'.nodes = g.nodes.map (fun n => shownParticipant (idOf g n.id) n) →
        AppendsTo g' (readLine g' (messageStatement (idOf g e.source) (idOf g e.target) e)) []
          [shownMessage (idOf g) g'.edges.length e] := by
    intro g' e he _ hnodes
    exact appends_messageStatement (hasWordEnds (fun _ => rfl) hnodes he)
  rw [read_eq_foldl, body]
  exact nodes_edges_of_lines hnode hedge (nodup_map_idOf g) trivial rfl

end DiagramBridge.Mermaid.Sequence
