import DiagramBridge.Mermaid.Flowchart.Reader
import DiagramBridge.Proofs.Diagram.Building
import DiagramBridge.Proofs.Mermaid.Flowchart.Arrow
import DiagramBridge.Proofs.Mermaid.Flowchart.NodeText
import DiagramBridge.Proofs.Text.Blank

/-!
# What the reader of flowcharts builds

Parts of a chain and labels of arrows are cut out of the line that they stand on. A label is a stretch
of a part of a chain, or an id, so it has no arrow token in it, whatever stood on the line, and an id
is a word. Shapes come from brackets, nodes are plain nodes, labels of arrows are trimmed whichever
way they are written, and an edge is added only between two nodes that were mentioned on its two
sides. So the reader takes steps with such a material from the first line to the last.
-/

namespace DiagramBridge.Mermaid.Flowchart

open Text DiagramBridge.Graph

/-! ## Stretches of a part -/

theorem isInfix_unquote (s : List Char) : unquote s <:+: s := by
  rw [unquote]
  refine (isInfix_trim _).trans (List.IsInfix.trans ?_ (isInfix_trim s))
  cases hquotes : betweenQuotes? (trim s) with
  | none => exact List.infix_refl _
  | some t =>
      rw [Option.getD_some]
      rw [betweenQuotes?.eq_def] at hquotes
      split at hquotes
      · next r heq =>
        split at hquotes
        · next inner hreverse =>
          have hinner : inner.reverse = t := Option.some.inj hquotes
          have hr : r = t ++ ['"'] := by
            rw [← List.reverse_reverse r, hreverse, List.reverse_cons, hinner]
          rw [heq, hr]
          exact ⟨['"'], ['"'], rfl⟩
        · exact absurd hquotes (by simp)
      · exact absurd hquotes (by simp)

theorem isPrefix_dropStyleClass (s : List Char) : dropStyleClass s <+: s := by
  rw [dropStyleClass]
  split
  · exact List.prefix_refl _
  · split
    · next front hbefore =>
      have hrest : (s.reverse.dropWhile isWord).reverse <+: s.reverse.reverse :=
        List.reverse_prefix.2 (List.dropWhile_suffix isWord)
      rw [List.reverse_reverse, ← beforeEnd?_eq_some_iff.1 hbefore] at hrest
      exact (isPrefix_trimEnd front).trans ((List.prefix_append _ _).trans hrest)
    · exact List.prefix_refl _

theorem isInfix_of_insideBrackets? {shape : Shape} {s t : List Char}
    (h : insideBrackets? shape s = some t) : t <:+: s := by
  rw [insideBrackets?, Option.bind_eq_bind, Option.bind_eq_some_iff] at h
  obtain ⟨r, hr, h⟩ := h
  rw [Option.bind_eq_some_iff] at h
  obtain ⟨front, hfront, h⟩ := h
  split at h
  · exact absurd h (by simp)
  · obtain rfl : front = t := Option.some.inj h
    rw [← after?_eq_some_iff.1 hr, ← beforeEnd?_eq_some_iff.1 hfront]
    exact ⟨_, _, List.append_assoc _ _ _⟩

theorem bracket?_eq_some {s label : List Char} {shape : Shape}
    (h : bracket? s = some (shape, label)) : shape ∈ bracketedShapes ∧ label <:+: s := by
  rw [bracket?] at h
  obtain ⟨found, hfound, h⟩ := List.exists_of_findSome?_eq_some h
  obtain ⟨t, ht, heq⟩ := Option.map_eq_some_iff.1 h
  obtain ⟨rfl, rfl⟩ := Prod.mk.inj heq
  refine ⟨hfound, (isInfix_unquote t).trans ?_⟩
  exact (isInfix_of_insideBrackets? ht).trans (isPrefix_dropStyleClass s).isInfix

/-- The id of a node is a word, and its label is a stretch of the text that it is read from. -/
theorem read?_eq_some {s : List Char} {t : NodeText} (h : NodeText.read? s = some t) :
    (∀ c ∈ t.id, isWord c = true) ∧ ∀ b ∈ t.bracket, b.1 ∈ bracketedShapes ∧ b.2 <:+: s := by
  have hid : ∀ c ∈ (spanWord (trim s)).1, isWord c = true := by
    rw [spanWord, List.span_eq_takeWhile_dropWhile]
    exact List.all_eq_true.1 List.all_takeWhile
  have hrest : trimStart (spanWord (trim s)).2 <:+: s := by
    rw [spanWord, List.span_eq_takeWhile_dropWhile]
    refine ((List.dropWhile_suffix isBlank).trans (List.dropWhile_suffix isWord)).isInfix.trans ?_
    exact isInfix_trim s
  rw [NodeText.read?] at h
  dsimp only at h
  split at h
  · next b hb =>
    obtain rfl := Option.some.inj h
    refine ⟨hid, fun b' hb' => ?_⟩
    obtain rfl : b = b' := Option.some.inj hb'
    obtain ⟨hshape, hlabel⟩ := bracket?_eq_some hb
    exact ⟨hshape, hlabel.trans hrest⟩
  · split at h
    · exact absurd h (by simp)
    · obtain rfl := Option.some.inj h
      exact ⟨hid, by simp⟩

/-! ## Parts and labels of a line -/

theorem unquote_subset (s : List Char) : unquote s ⊆ s :=
  (isInfix_unquote s).subset

theorem barLabel?_subset {s label rest : List Char} (h : barLabel? s = some (label, rest)) :
    label ⊆ s := by
  rw [barLabel?] at h
  split at h
  · next t heq =>
    calc label
        ⊆ t := (cutAt?_subset h).1
      _ ⊆ '|' :: t := List.subset_cons_self '|' t
      _ ⊆ s := heq ▸ trimStart_subset s
  · exact absurd h (by simp)

theorem tokenHop?_subset {s rest : List Char} {hop : Hop} (h : tokenHop? s = some (hop, rest)) :
    hop.label ⊆ s := by
  rw [tokenHop?] at h
  obtain ⟨⟨lineStyle, arrowEnd⟩, -, h⟩ := List.exists_of_findSome?_eq_some h
  obtain ⟨t, ht, h⟩ := Option.map_eq_some_iff.1 h
  split at h
  · next label rest hlabel =>
    obtain ⟨rfl, rfl⟩ := Prod.mk.inj h
    calc unquote label
        ⊆ label := unquote_subset label
      _ ⊆ t := barLabel?_subset hlabel
      _ ⊆ s := after?_subset ht
  · obtain ⟨rfl, rfl⟩ := Prod.mk.inj h
    exact List.nil_subset _

theorem untilArrow?_subset {s text rest : List Char} (h : untilArrow? s = some (text, rest)) :
    text ⊆ s := by
  induction s generalizing text rest with
  | nil => exact absurd h (by simp [untilArrow?])
  | cons c s ih =>
      have hlonger : ∀ {t r}, ((untilArrow? s).map fun found => (c :: found.1, found.2)) =
          some (t, r) → t ⊆ c :: s := by
        intro t r h
        obtain ⟨⟨t', r'⟩, hs, heq⟩ := Option.map_eq_some_iff.1 h
        obtain ⟨rfl, rfl⟩ := Prod.mk.inj heq
        exact List.cons_subset_cons c (ih hs)
      rw [untilArrow?] at h
      split_ifs at h
      · split at h
        · obtain ⟨rfl, rfl⟩ := Prod.mk.inj (Option.some.inj h)
          exact List.nil_subset _
        · exact hlonger h
      · exact hlonger h

theorem inlineHop?_subset {s rest : List Char} {hop : Hop} (h : inlineHop? s = some (hop, rest)) :
    hop.label ⊆ s := by
  rw [inlineHop?, Option.bind_eq_bind, Option.bind_eq_some_iff] at h
  obtain ⟨t, ht, h⟩ := h
  split at h
  · exact absurd h (by simp)
  · next b u =>
    split_ifs at h
    split at h
    · exact absurd h (by simp)
    · next c v heq =>
      split_ifs at h
      rw [Option.bind_eq_bind, Option.bind_eq_some_iff] at h
      obtain ⟨⟨label, r⟩, hlabel, h⟩ := h
      obtain ⟨rfl, rfl⟩ := Prod.mk.inj (Option.some.inj h)
      calc unquote (c :: label)
          ⊆ c :: label := unquote_subset _
        _ ⊆ c :: v := List.cons_subset_cons c (untilArrow?_subset hlabel)
        _ ⊆ u := heq ▸ trimStart_subset u
        _ ⊆ b :: u := List.subset_cons_self b u
        _ ⊆ s := after?_subset ht

theorem hopAt?_subset {s rest : List Char} {hop : Hop} (h : hopAt? s = some (hop, rest)) :
    hop.label ⊆ s := by
  rw [hopAt?, Option.or_eq_some_iff] at h
  exact h.elim tokenHop?_subset fun h => inlineHop?_subset h.2

/-- The parts of a line and the labels of its arrows are cut out of it. -/
theorem after_subset (n : Nat) (s : List Char) :
    (Chain.after n s).first ⊆ s ∧ ∀ h ∈ (Chain.after n s).hops, h.1.label ⊆ s ∧ h.2 ⊆ s := by
  induction s generalizing n with
  | nil =>
      rw [Chain.after]
      exact ⟨List.Subset.refl _, by simp⟩
  | cons c s ih =>
      have hshort : ∀ {t}, t ⊆ s → t ⊆ c :: s := fun ht =>
        List.Subset.trans ht (List.subset_cons_self c s)
      cases n with
      | succ n =>
          obtain ⟨hfirst, hhops⟩ := ih n
          rw [Chain.after]
          exact ⟨hshort hfirst, fun h hh => ⟨hshort (hhops h hh).1, hshort (hhops h hh).2⟩⟩
      | zero =>
          rw [Chain.after]
          split
          · next hop rest hhop =>
            obtain ⟨hfirst, hhops⟩ := ih (s.length - rest.length)
            refine ⟨List.nil_subset _, fun h hh => ?_⟩
            rcases List.mem_cons.1 hh with rfl | hh
            · exact ⟨hopAt?_subset hhop, hshort hfirst⟩
            · exact ⟨hshort (hhops h hh).1, hshort (hhops h hh).2⟩
          · obtain ⟨hfirst, hhops⟩ := ih 0
            exact ⟨List.cons_subset_cons c hfirst,
              fun h hh => ⟨hshort (hhops h hh).1, hshort (hhops h hh).2⟩⟩

/-! ## Labels of arrows -/

theorem isTrimmed_unquote (s : List Char) : IsTrimmed (unquote s) :=
  isTrimmed_trim _

theorem isTrimmed_of_tokenHop? {s rest : List Char} {hop : Hop}
    (h : tokenHop? s = some (hop, rest)) : IsTrimmed hop.label := by
  rw [tokenHop?] at h
  obtain ⟨⟨lineStyle, arrowEnd⟩, -, h⟩ := List.exists_of_findSome?_eq_some h
  obtain ⟨t, -, h⟩ := Option.map_eq_some_iff.1 h
  split at h
  · obtain ⟨rfl, -⟩ := Prod.mk.inj h
    exact isTrimmed_unquote _
  · obtain ⟨rfl, -⟩ := Prod.mk.inj h
    exact isTrimmed_of_forall (by simp)

theorem isTrimmed_of_inlineHop? {s rest : List Char} {hop : Hop}
    (h : inlineHop? s = some (hop, rest)) : IsTrimmed hop.label := by
  rw [inlineHop?, Option.bind_eq_bind, Option.bind_eq_some_iff] at h
  obtain ⟨t, -, h⟩ := h
  split at h
  · exact absurd h (by simp)
  · split_ifs at h
    split at h
    · exact absurd h (by simp)
    · split_ifs at h
      rw [Option.bind_eq_bind, Option.bind_eq_some_iff] at h
      obtain ⟨found, -, h⟩ := h
      obtain ⟨rfl, -⟩ := Prod.mk.inj (Option.some.inj h)
      exact isTrimmed_unquote _

theorem isTrimmed_of_hopAt? {s rest : List Char} {hop : Hop} (h : hopAt? s = some (hop, rest)) :
    IsTrimmed hop.label := by
  rw [hopAt?, Option.or_eq_some_iff] at h
  exact h.elim isTrimmed_of_tokenHop? fun h => isTrimmed_of_inlineHop? h.2

/-- The labels on a line are trimmed. -/
theorem isTrimmed_of_mem_hops_after (n : Nat) (s : List Char) :
    ∀ h ∈ (Chain.after n s).hops, IsTrimmed h.1.label := by
  induction s generalizing n with
  | nil =>
      rw [Chain.after]
      simp
  | cons c s ih =>
      cases n with
      | succ n =>
          rw [Chain.after]
          exact ih n
      | zero =>
          rw [Chain.after]
          split
          · next hop rest hhop =>
            intro h hh
            rcases List.mem_cons.1 hh with rfl | hh
            · exact isTrimmed_of_hopAt? hhop
            · exact ih _ h hh
          · exact ih 0

/-! ## Graphs of flowcharts -/

/-- A node that a flowchart can have. -/
structure IsChartNode (n : Node) : Prop where
  kind : n.kind = .node
  members : n.members = []
  shape : n.shape ∈ bracketedShapes
  arrowFree : IsArrowFree n.label.toList

structure IsChartEdge (e : Edge) : Prop where
  relation : e.relation = none
  id : ∀ c ∈ e.id.toList, isWord c = true

abbrev IsChart (g : Graph) : Prop :=
  g.Consists IsChartNode IsChartEdge

/-- A mention as a part of a chain can make it. -/
structure IsChartMention (p : Char → Prop) (m : Mention) : Prop
    extends IsReadMention .flowchart p m where
  word : ∀ c ∈ m.id.toList, isWord c = true
  shape : ∀ shape ∈ m.shape, shape ∈ bracketedShapes
  arrowFree : ∀ label ∈ m.label, IsArrowFree label.toList

/-- What the lines of a flowchart can put into its graph. -/
def material (p : Char → Prop) : Material where
  mention := IsChartMention p
  link l := IsReadLink p l ∧ l.relation = none
  member _ := False

theorem isReadFrom_material (p : Char → Prop) : (material p).IsReadFrom .flowchart p :=
  ⟨fun _ hm => hm.toIsReadMention, fun _ hl => hl.1, fun _ hs => hs.elim⟩

theorem isChart_of_steps {p : Char → Prop} {g : Graph} (h : Steps (material p) .empty g) :
    IsChart g := by
  refine h.consists (fun m hm => ⟨⟨hm.kind, hm.members, ?_, ?_⟩, fun n label hn hlabel => ?_⟩)
    (fun g l hl => ⟨hl.2, ?_⟩) fun _ _ hs => hs.elim
  · rw [Mention.toNode]
    cases hshape : m.shape with
    | none => exact (by decide : Shape.rectangle ∈ bracketedShapes)
    | some shape => exact hm.shape shape hshape
  · rw [Mention.toNode]
    cases hlabel : m.label with
    | none => exact isArrowFree_of_word hm.word
    | some label => exact hm.arrowFree label hlabel
  · refine ⟨hn.kind, hn.members, ?_, hm.arrowFree label hlabel⟩
    rw [relabelled]
    cases hshape : m.shape with
    | none => exact hn.shape
    | some shape => exact hm.shape shape hshape
  · rw [edgeOf, if_pos hl.1.id]
    exact isWord_freshEdgeId g

/-! ## Names of nodes -/

theorem isWord_anonymousId (n : Nat) : ∀ c ∈ (anonymousId n).toList, isWord c = true := by
  intro c hc
  have hfront : ∀ c ∈ "node_".toList, isWord c = true := by decide
  rw [anonymousId, String.toList_append, List.mem_append, toList_decimalString] at hc
  exact hc.elim (hfront c) isWord_of_mem_decimal

theorem anonymousId_ne_nil (n : Nat) : (anonymousId n).toList ≠ [] := by
  rw [anonymousId, String.toList_append]
  exact List.append_ne_nil_of_left_ne_nil (by decide) _

/-- The id of a part is a word: the one at its front, or a numbered one where there is none. -/
theorem Progress.identify_spec (p : Progress) {t : NodeText} (h : ∀ c ∈ t.id, isWord c = true) :
    (p.identify t).1.graph = p.graph ∧ (p.identify t).2.toList ≠ [] ∧
      ∀ c ∈ (p.identify t).2.toList, isWord c = true := by
  rw [Progress.identify]
  split
  · exact ⟨rfl, anonymousId_ne_nil _, isWord_anonymousId _⟩
  · next hne =>
    rw [String.toList_ofList]
    exact ⟨rfl, by simpa using hne, h⟩

/-! ## Steps of the reader -/

section

variable {p : Char → Prop}

/-- A mention adds its id to the others. -/
theorem Progress.steps_mention (q : Progress) {id : String} {bracket : Option (Shape × List Char)}
    (h : IsChartMention p
      { id, label := bracket.map fun b => String.ofList b.2, shape := bracket.map (·.1) }) :
    Steps (material p) q.graph (q.mention id bracket).graph ∧
      id ∈ (q.mention id bracket).graph.nodeIds := by
  have hmention := Relation.ReflTransGen.single (Step.mention (M := material p) q.graph h)
  have hmem : id ∈ (q.graph.mention
      { id, label := bracket.map fun b => String.ofList b.2
        shape := bracket.map (·.1) }).nodeIds := mem_nodeIds_mention.2 (.inr rfl)
  rw [Progress.mention]
  split
  · exact ⟨hmention, hmem⟩
  · split
    · exact ⟨hmention, hmem⟩
    · exact ⟨hmention.tail (.enlist _ _ _), hmem⟩

variable (hword : ∀ c, isWord c = true → p c)
include hword

/-- A part without arrow tokens mentions its node, if there is one. -/
theorem Progress.steps_readPart (q : Progress) {part : List Char} (hfree : IsArrowFree part)
    (hpart : ∀ c ∈ part, p c) :
    Steps (material p) q.graph (q.readPart part).1.graph ∧
      ∀ i ∈ (q.readPart part).2, i ∈ (q.readPart part).1.graph.nodeIds := by
  rw [Progress.readPart]
  cases hread : NodeText.read? part with
  | none => exact ⟨.refl, by simp⟩
  | some t =>
      obtain ⟨hid, hbracket⟩ := read?_eq_some hread
      obtain ⟨hgraph, hne, hname⟩ := q.identify_spec hid
      have hlabel : ∀ label ∈ t.bracket.map (fun b => String.ofList b.2),
          label.toList <:+: part := by
        intro label hlabel
        obtain ⟨b, hb, rfl⟩ := Option.map_eq_some_iff.1 hlabel
        rw [String.toList_ofList]
        exact (hbracket b hb).2
      have hmention : IsChartMention p { id := (q.identify t).2
                                         label := t.bracket.map fun b => String.ofList b.2
                                         shape := t.bracket.map (·.1) } :=
        { name := isWordRun_of_isWord hne hname
          kind := rfl
          members := rfl
          geometry := rfl
          idChars := fun c hc => hword c (hname c hc)
          labelChars := fun label hl c hc => hpart c ((hlabel label hl).subset hc)
          word := hname
          shape := fun shape hshape => by
            obtain ⟨b, hb, rfl⟩ := Option.map_eq_some_iff.1 hshape
            exact (hbracket b hb).1
          arrowFree := fun label hl => hfree.of_infix (hlabel label hl) }
      obtain ⟨hsteps, hmem⟩ := (q.identify t).1.steps_mention hmention
      rw [hgraph] at hsteps
      refine ⟨hsteps, fun i hi => ?_⟩
      rw [← Option.some.inj hi]
      exact hmem

/-- The node before a hop was mentioned already, the one behind it is mentioned next. -/
theorem Progress.steps_readHops (q : Progress) {previous : Option String}
    (hprevious : ∀ i ∈ previous, i ∈ q.graph.nodeIds) {hops : List (Hop × List Char)}
    (hlabels : ∀ hop ∈ hops, IsTrimmed hop.1.label ∧ ∀ c ∈ hop.1.label, p c)
    (hparts : ∀ hop ∈ hops, IsArrowFree hop.2 ∧ ∀ c ∈ hop.2, p c) :
    Steps (material p) q.graph (q.readHops previous hops).graph := by
  induction hops generalizing q previous with
  | nil => exact .refl
  | cons hop hops ih =>
      obtain ⟨hop, part⟩ := hop
      rw [List.forall_mem_cons] at hlabels hparts
      obtain ⟨⟨htrimmed, hchars⟩, hlabels⟩ := hlabels
      obtain ⟨⟨hfree, hpart⟩, hparts⟩ := hparts
      obtain ⟨hread, hcurrent⟩ := q.steps_readPart hword hfree hpart
      rw [Progress.readHops]
      dsimp only
      split
      · next source target hsome =>
        have hlink : Step (material p) (q.readPart part).1.graph
            ((q.readPart part).1.join source target hop).graph := by
          refine .link ⟨⟨rfl, ?_, ?_⟩, rfl⟩ (hread.mem_nodeIds (hprevious source rfl))
            (hcurrent target hsome)
          · rwa [String.toList_ofList]
          · rwa [String.toList_ofList]
        refine (hread.tail hlink).trans (ih _ (fun i hi => ?_) hlabels hparts)
        exact hlink.mem_nodeIds (hcurrent i hi)
      · exact hread.trans (ih _ hcurrent hlabels hparts)

/-- The parts of a chain have no arrow tokens in them, so every chain can be read. -/
theorem Progress.steps_readLine (q : Progress) {line : List Char} (hline : ∀ c ∈ line, p c) :
    Steps (material p) q.graph (q.readLine line).graph := by
  rw [Progress.readLine, Statement.ofLine]
  split
  · exact .refl
  · split
    · next rest _ =>
      rw [Statement.ofOpening]
      split
      · exact .single (.addSubgraph _ _)
      · dsimp only
        split
        · exact .single (.addSubgraph _ _)
        · exact .single (.addSubgraph _ _)
    · split
      · exact .refl
      · obtain ⟨hfirst, hhops⟩ := after_subset 0 line
        obtain ⟨hfreeFirst, hfreeHops⟩ := isArrowFree_after 0 line
        obtain ⟨hread, hcurrent⟩ :=
          q.steps_readPart hword hfreeFirst fun c hc => hline c (hfirst hc)
        refine hread.trans (Progress.steps_readHops hword _ hcurrent (fun hop hhop => ?_)
          fun hop hhop => ?_)
        · exact ⟨isTrimmed_of_mem_hops_after 0 line hop hhop,
            fun c hc => hline c ((hhops hop hhop).1 hc)⟩
        · exact ⟨hfreeHops hop hhop, fun c hc => hline c ((hhops hop hhop).2 hc)⟩

/-- A flowchart is read in steps, with the characters of its lines and those of words. -/
theorem steps_read {body : List (List Char)} (hbody : ∀ line ∈ body, ∀ c ∈ line, p c) :
    Steps (material p) .empty (read body) :=
  List.foldlRecOn (motive := fun q => Steps (material p) .empty q.graph) body Progress.readLine
    .refl fun q h line hline => h.trans (q.steps_readLine hword (hbody line hline))

end

theorem isChart_read (body : List (List Char)) : IsChart (read body) :=
  isChart_of_steps (p := fun _ => True) (steps_read (fun _ _ => trivial) fun _ _ _ _ => trivial)

end DiagramBridge.Mermaid.Flowchart
