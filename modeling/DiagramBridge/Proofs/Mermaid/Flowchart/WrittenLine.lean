import DiagramBridge.Mermaid.Flowchart.Writer
import DiagramBridge.Proofs.Mermaid.Flowchart.Arrow
import DiagramBridge.Proofs.Mermaid.Flowchart.NodeText
import DiagramBridge.Proofs.Mermaid.Flowchart.Statement
import DiagramBridge.Proofs.Mermaid.Statements

/-!
# The lines of a written flowchart

The line of a node has no arrow in it as long as its label has none, since neither an id nor a
bracket begins one. The line of an edge is cut at its arrow and nowhere else: ids are words, and the
label behind the arrow is taken together with its bars.
-/

namespace DiagramBridge.Mermaid.Flowchart

open Text

/-! ## Labels and arrow tokens -/

/-- Encoding a label neither makes nor hides an arrow token. -/
theorem isArrowFree_encode_iff {s : List Char} : IsArrowFree (encode s) ↔ IsArrowFree s := by
  have htokens : ∀ token ∈ arrowTokens, token.toList ≠ [] ∧ (∀ c ∈ token.toList, c ∉ markChars) ∧
      ∀ c ∈ token.toList.head?, c ∉ "<br/>#quot;".toList := by
    decide
  refine forall₂_congr fun token htoken => not_congr ?_
  obtain ⟨hne, hmarks, hhead⟩ := htokens token htoken
  exact isInfix_encode_iff hne hmarks hhead

theorem isArrowFree_labelText_iff {s : List Char} : IsArrowFree (labelText s) ↔ IsArrowFree s := by
  rw [← isArrowFree_encode_iff (s := s)]
  constructor
  · exact fun h => h.of_infix (isInfix_labelText s)
  · intro h
    rw [labelText_eq]
    split
    · exact IsArrowFree.append_append (a := ['"']) (b := ['"']) (by decide) h (by decide)
    · exact h

/-! ## Written arrows -/

/-- The arrows whose tokens are tried before the one that is written. -/
def arrowsTriedBefore (lineStyle : LineStyle) (arrowEnd : Bool) : List (LineStyle × Bool) :=
  arrows.takeWhile (· != (lineStyle, arrowEnd))

/-- What is tried earlier either does not begin with the written token, or has a head more. -/
theorem token_of_mem_arrowsTriedBefore (lineStyle : LineStyle) (arrowEnd : Bool) :
    ∀ a ∈ arrowsTriedBefore lineStyle arrowEnd,
      ¬ (arrowToken a.1 a.2).toList <+: (arrowToken lineStyle arrowEnd).toList ∧
        (∀ c ∈ (arrowToken a.1 a.2).toList.getLast?,
          (arrowToken lineStyle arrowEnd).toList ++ [c] = (arrowToken a.1 a.2).toList → c = '>') ∧
        (arrowToken a.1 a.2).toList.length ≤ (arrowToken lineStyle arrowEnd).toList.length + 1 := by
  cases lineStyle <;> cases arrowEnd <;> decide

/-- A written token is found, whatever follows it but a head, with the label between bars. -/
theorem tokenHop?_written (lineStyle : LineStyle) (arrowEnd : Bool) {rest : List Char}
    (hrest : ∀ c ∈ rest.head?, c ≠ '>') :
    tokenHop? ((arrowToken lineStyle arrowEnd).toList ++ rest) =
      some ((barLabel? rest).elim ({ lineStyle, arrowEnd, label := [] }, rest) fun bar =>
        ({ lineStyle, arrowEnd, label := unquote bar.1 }, bar.2)) := by
  have harrows : ∃ later,
      arrows = arrowsTriedBefore lineStyle arrowEnd ++ (lineStyle, arrowEnd) :: later := by
    cases lineStyle <;> cases arrowEnd <;> exact ⟨_, rfl⟩
  obtain ⟨later, harrows⟩ := harrows
  rw [tokenHop?, harrows, List.findSome?_append, List.findSome?_eq_none_iff.2, Option.none_or,
    List.findSome?_cons]
  · simp only [after?_append, Option.map_some]
    cases barLabel? rest <;> rfl
  · intro a ha
    obtain ⟨hshort, hlong, hlength⟩ := token_of_mem_arrowsTriedBefore lineStyle arrowEnd a ha
    have hpre : ¬ (arrowToken a.1 a.2).toList <+:
        (arrowToken lineStyle arrowEnd).toList ++ rest := by
      refine not_prefix_append hshort (fun c hc heq => ?_) hlength
      refine hrest c hc (hlong c ?_ heq)
      rw [← heq, List.getLast?_append, List.getLast?_singleton]
      rfl
    simp only [after?_eq_none_iff.2 hpre, Option.map_none]

theorem exists_arrowToken_eq (e : Edge) :
    ∃ c token, (arrowToken e.lineStyle e.arrowEnd).toList = c :: token :=
  List.exists_cons_of_ne_nil (by cases e.lineStyle <;> cases e.arrowEnd <;> decide)

theorem bar_mem_labelText_iff {s : List Char} : '|' ∈ labelText s ↔ '|' ∈ s := by
  rw [← mem_encode_iff (s := s) (by decide : '|' ∉ "<br/>#quot;".toList ++ markChars)]
  constructor
  · exact fun h => (mem_labelText h).resolve_left (by decide)
  · exact fun h => (isInfix_labelText s).subset h

/-- A token without a label is read up to the space behind it. -/
theorem hopAt?_of_unlabelled (lineStyle : LineStyle) (arrowEnd : Bool) {rest : List Char}
    (hblank : Stops isBlank rest) (hbar : Stops (· == '|') rest) :
    hopAt? ((arrowToken lineStyle arrowEnd).toList ++ ' ' :: rest) = some
      ({ lineStyle, arrowEnd, label := [] }, ' ' :: rest) := by
  have hbars : barLabel? (' ' :: rest) = none := by
    rw [barLabel?, trimStart_cons_of_blank (by decide), trimStart_of_stops hblank]
    split
    · exact absurd (stops_cons_iff.1 hbar) (by decide)
    · rfl
  rw [hopAt?, tokenHop?_written _ _ (by simp), hbars]
  rfl

/-- A label between bars is read up to the first bar behind the one that opens it. -/
theorem hopAt?_of_barred (lineStyle : LineStyle) (arrowEnd : Bool) {label : List Char}
    (hlabel : '|' ∉ label) (rest : List Char) :
    hopAt? ((arrowToken lineStyle arrowEnd).toList ++ '|' :: (label ++ '|' :: rest)) = some
      ({ lineStyle, arrowEnd, label := unquote label }, rest) := by
  have hbars : barLabel? ('|' :: (label ++ '|' :: rest)) = some (label, rest) := by
    rw [barLabel?, trimStart_cons_of_not_blank (by decide)]
    exact cutAt?_append hlabel rest
  rw [hopAt?, tokenHop?_written _ _ (by simp), hbars]
  rfl

theorem stops_of_word {w : List Char} (hw : ∀ c ∈ w, isWord c = true) :
    Stops isBlank w ∧ Stops (· == '|') w :=
  ⟨stops_of_forall fun c hc => isBlank_of_isWord (hw c hc),
    stops_of_forall fun c hc => beq_eq_false_iff_ne.2 (ne_of_isWord (hw c hc) (by decide))⟩

theorem hopAt?_arrowText_of_unlabelled {e : Edge} (hlabel : e.label = "") {target : List Char}
    (htarget : ∀ c ∈ target, isWord c = true) :
    hopAt? (arrowText e ++ ' ' :: target) = some
      ({ lineStyle := e.lineStyle, arrowEnd := e.arrowEnd, label := [] }, ' ' :: target) := by
  obtain ⟨hblank, hbar⟩ := stops_of_word htarget
  rw [arrowText, if_pos hlabel, List.append_nil]
  exact hopAt?_of_unlabelled _ _ hblank hbar

/-- The label of a written arrow is read up to the first bar behind it, which may be a bar of the
label. -/
theorem hopAt?_arrowText {e : Edge} (hlabel : e.label ≠ "") {rest front back : List Char}
    (hcut : labelText e.label.toList ++ '|' :: rest = front ++ '|' :: back) (hfront : '|' ∉ front) :
    hopAt? (arrowText e ++ rest) = some
      ({ lineStyle := e.lineStyle, arrowEnd := e.arrowEnd, label := unquote front }, back) := by
  rw [arrowText, if_neg hlabel]
  simp only [List.append_assoc, List.cons_append, List.nil_append]
  rw [hcut]
  exact hopAt?_of_barred _ _ hfront back

/-! ## Chains of written lines -/

/-- The text of a node in the brackets of its shape. -/
def bracketText (n : Node) : List Char :=
  (brackets n.shape).1.toList ++ (labelText (nodeLabel n) ++ (brackets n.shape).2.toList)

theorem stops_bracketText (n : Node) :
    Stops isWord (bracketText n) ∧ Stops isBlank (bracketText n) :=
  stops_opening n.shape _

def nodeStatement (id : String) (n : Node) : List Char :=
  id.toList ++ bracketText n

def edgeStatement (source target : String) (e : Edge) : List Char :=
  source.toList ++ (' ' :: (arrowText e ++ ' ' :: target.toList))

theorem nodeLine_eq (id : String) (n : Node) : nodeLine id n = indent ++ nodeStatement id n := by
  simp only [nodeLine, nodeStatement, bracketText, List.append_assoc]

theorem edgeLine_eq (source target : String) (e : Edge) :
    edgeLine source target e = indent ++ edgeStatement source target e := by
  simp only [edgeLine, edgeStatement, List.append_assoc, List.cons_append]

/-- No arrow token stands on the line of a node but those of its label. -/
theorem isArrowFree_nodeStatement_iff {id : String} {n : Node}
    (hid : ∀ c ∈ id.toList, isWord c = true) :
    IsArrowFree (nodeStatement id n) ↔ IsArrowFree (nodeLabel n) := by
  have hopening : ∀ c ∈ (brackets n.shape).1.toList, c ∉ ['-', '='] := by
    cases n.shape <;> decide
  have hclosing : ∀ c ∈ (brackets n.shape).2.toList, c ∉ ['-', '=', '>'] := by
    cases n.shape <;> decide
  have hsplit : nodeStatement id n = id.toList ++ (brackets n.shape).1.toList ++
      labelText (nodeLabel n) ++ (brackets n.shape).2.toList := by
    simp only [nodeStatement, bracketText, List.append_assoc]
  rw [← isArrowFree_labelText_iff (s := nodeLabel n), hsplit]
  constructor
  · exact fun h => h.of_infix ⟨_, _, rfl⟩
  · intro h
    refine IsArrowFree.append_append (fun c hc => ?_) h hclosing
    rcases List.mem_append.1 hc with hc | hc
    · exact not_mem_of_isWord (hid c hc) (by decide)
    · exact hopening c hc

theorem ofLine_word_append {w s back : List Char} {c : Char} {hop : Hop}
    (hw : ∀ c ∈ w, isWord c = true) (hhop : hopAt? (c :: (s ++ back)) = some (hop, back)) :
    Chain.ofLine (w ++ ' ' :: c :: (s ++ back)) =
      ⟨w ++ [' '], (hop, (Chain.ofLine back).first) :: (Chain.ofLine back).hops⟩ := by
  have hfront : ∀ c ∈ w ++ [' '], c ∉ ['-', '='] := by
    intro c hc
    rcases List.mem_append.1 hc with hc | hc
    · exact not_mem_of_isWord (hw c hc) (by decide)
    · rw [List.mem_singleton.1 hc]
      decide
  rw [List.append_cons w ' ']
  exact ofLine_append hfront (List.cons_ne_nil c s) hhop

/-- The line of an edge with a label is cut behind the first bar after the one that opens the label,
and what follows is cut further. -/
theorem ofLine_edgeStatement_of_cut {source target : String} {e : Edge}
    (hsource : ∀ c ∈ source.toList, isWord c = true) (hlabel : e.label ≠ "") {front back : List Char}
    (hcut : labelText e.label.toList ++ '|' :: ' ' :: target.toList = front ++ '|' :: back)
    (hfront : '|' ∉ front) :
    Chain.ofLine (edgeStatement source target e) =
      ⟨source.toList ++ [' '],
        ({ lineStyle := e.lineStyle, arrowEnd := e.arrowEnd, label := unquote front },
          (Chain.ofLine back).first) :: (Chain.ofLine back).hops⟩ := by
  obtain ⟨c, token, htoken⟩ := exists_arrowToken_eq e
  have hhop := hopAt?_arrowText hlabel hcut hfront
  have htext : arrowText e ++ ' ' :: target.toList = c :: (token ++ '|' :: front ++ ['|'] ++ back) := by
    rw [arrowText, if_neg hlabel, htoken]
    simp only [List.cons_append, List.append_assoc, List.nil_append, hcut]
  rw [htext] at hhop
  rw [edgeStatement, htext]
  exact ofLine_word_append hsource hhop

theorem ofLine_target {target : String} (htarget : ∀ c ∈ target.toList, isWord c = true) :
    Chain.ofLine (' ' :: target.toList) = ⟨' ' :: target.toList, []⟩ := by
  have h := IsArrowFree.append_append (a := [' ']) (b := []) (by decide)
    (isArrowFree_of_word htarget) (by simp)
  rw [List.append_nil] at h
  exact ofLine_of_arrowFree h

/-- The line of an edge is cut into its two ends if no bar is in its label. -/
theorem ofLine_edgeStatement {source target : String} {e : Edge}
    (hsource : ∀ c ∈ source.toList, isWord c = true)
    (htarget : ∀ c ∈ target.toList, isWord c = true) (hbar : '|' ∉ e.label.toList) :
    Chain.ofLine (edgeStatement source target e) =
      ⟨source.toList ++ [' '],
        [({ lineStyle := e.lineStyle, arrowEnd := e.arrowEnd,
            label := unquote (labelText e.label.toList) }, ' ' :: target.toList)]⟩ := by
  by_cases hlabel : e.label = ""
  · obtain ⟨c, token, htoken⟩ := exists_arrowToken_eq e
    have htext : arrowText e = c :: token := by
      rw [arrowText, if_pos hlabel, htoken, List.append_nil]
    have hhop := hopAt?_arrowText_of_unlabelled hlabel htarget
    rw [htext] at hhop
    rw [edgeStatement, htext, List.cons_append, ofLine_word_append hsource hhop,
      ofLine_target htarget, hlabel]
    rfl
  · have hfront : '|' ∉ labelText e.label.toList := fun hmem =>
      hbar (bar_mem_labelText_iff.1 hmem)
    rw [ofLine_edgeStatement_of_cut hsource hlabel rfl hfront, ofLine_target htarget]

/-- The line of an edge is one step from its source to its target. -/
def IsOneStep (source target : String) (e : Edge) : Prop :=
  ∃ hop, Chain.ofLine (edgeStatement source target e) =
    ⟨source.toList ++ [' '], [(hop, ' ' :: target.toList)]⟩

/-- Nothing but a bar in its label makes something else of the line of an edge. -/
theorem isOneStep_iff {source target : String} {e : Edge}
    (hsource : ∀ c ∈ source.toList, isWord c = true)
    (htarget : ∀ c ∈ target.toList, isWord c = true) :
    IsOneStep source target e ↔ '|' ∉ e.label.toList := by
  constructor
  · rintro ⟨hop, hchain⟩ hbar
    have hlabel : e.label ≠ "" := by
      rintro hempty
      rw [hempty] at hbar
      exact absurd hbar (by decide)
    obtain ⟨front, back, hsplit, hfront⟩ :=
      List.eq_append_cons_of_mem (bar_mem_labelText_iff.2 hbar)
    have hcut : labelText e.label.toList ++ '|' :: ' ' :: target.toList =
        front ++ '|' :: (back ++ '|' :: ' ' :: target.toList) := by
      rw [hsplit, List.append_assoc, List.cons_append]
    rw [ofLine_edgeStatement_of_cut hsource hlabel hcut hfront] at hchain
    -- What follows the first bar is one part and still has the closing bar of the label in it.
    obtain ⟨hpart, hhops⟩ := List.cons.inj (Chain.mk.inj hchain).2
    have hback := first_after_of_hops hhops
    have hmem : '|' ∈ ' ' :: target.toList := by
      rw [← (Prod.mk.inj hpart).2, Chain.ofLine, hback]
      simp
    rcases List.mem_cons.1 hmem with hmem | hmem
    · exact absurd hmem (by decide)
    · exact ne_of_isWord (htarget '|' hmem) (by decide) rfl
  · exact fun hbar => ⟨_, ofLine_edgeStatement hsource htarget hbar⟩

/-! ## Which written lines are chains -/

/-- The line of a node is a chain unless its id begins with the word that opens a subgraph. -/
theorem isChainLine_nodeStatement_iff {id : String} {n : Node}
    (hid : ∀ c ∈ id.toList, isWord c = true) :
    IsChainLine (nodeStatement id n) ↔ ¬ "subgraph".toList <+: id.toList := by
  obtain ⟨c, opening, hopening, hmark⟩ :
      ∃ c opening, (brackets n.shape).1.toList = c :: opening ∧ IsMark c := by
    cases n.shape <;> exact ⟨_, _, rfl, by decide⟩
  obtain ⟨hword, hblank⟩ := stops_bracketText n
  have hspace : ∀ t, bracketText n ≠ ' ' :: t := by
    intro t heq
    rw [heq] at hblank
    exact absurd (stops_cons_iff.1 hblank) (by decide)
  have hmem : c ∈ bracketText n := by
    rw [bracketText, hopening, List.cons_append]
    exact List.mem_cons_self
  rw [nodeStatement, isChainLine_word_iff hid hword hmem hmark]
  exact and_iff_right fun v _ _ => hspace

/-- The line of an edge is a chain unless its source begins with the word that opens a subgraph or
is a word that begins a statement about looks. -/
theorem isChainLine_edgeStatement_iff {source target : String} {e : Edge}
    (hsource : ∀ c ∈ source.toList, isWord c = true) :
    IsChainLine (edgeStatement source target e) ↔
      (∀ v ∈ skippedWords, v.toList ≠ source.toList ++ [' ']) ∧
        ¬ "subgraph".toList <+: source.toList := by
  obtain ⟨c, token, htoken, hmark⟩ :
      ∃ c token, (arrowToken e.lineStyle e.arrowEnd).toList = c :: token ∧ IsMark c := by
    cases e.lineStyle <;> cases e.arrowEnd <;> exact ⟨_, _, rfl, by decide⟩
  have hmem : c ∈ ' ' :: (arrowText e ++ ' ' :: target.toList) := by
    rw [arrowText, htoken]
    simp
  rw [edgeStatement, isChainLine_word_iff hsource (stops_cons_iff.2 (by decide)) hmem hmark]
  refine and_congr_left fun _ => forall₂_congr fun v _ => ?_
  exact ⟨fun h heq => h heq _ rfl, fun h heq => absurd heq h⟩

/-! ## Statements of written lines -/

theorem isStatement_nodeStatement {id : String} {n : Node} (hne : id.toList ≠ [])
    (hid : ∀ c ∈ id.toList, isWord c = true) : IsStatement (nodeStatement id n) := by
  have hclosing : Stops isLineEnd (brackets n.shape).2.toList.reverse ∧
      (brackets n.shape).2.toList ≠ [] := by
    cases n.shape <;> decide
  have hbrackets : '\n' ∉ (brackets n.shape).1.toList ∧ '\n' ∉ (brackets n.shape).2.toList := by
    cases n.shape <;> decide
  refine isStatement_of_word hne hid ?_ ?_
  · rw [bracketText, ← List.append_assoc, ← List.append_assoc]
    exact stops_reverse_append hclosing.1 hclosing.2 _
  · simp only [bracketText, List.mem_append, not_or]
    exact ⟨hbrackets.1, lineFeed_not_mem_labelText _, hbrackets.2⟩

theorem lineFeed_not_mem_arrowText (e : Edge) : '\n' ∉ arrowText e := by
  have htoken : '\n' ∉ (arrowToken e.lineStyle e.arrowEnd).toList := by
    cases e.lineStyle <;> cases e.arrowEnd <;> decide
  rw [arrowText]
  split
  · rwa [List.append_nil]
  · simp only [List.mem_append, List.mem_cons, List.not_mem_nil, not_or]
    exact ⟨htoken, ⟨by decide, lineFeed_not_mem_labelText _⟩, by decide, not_false⟩

theorem isStatement_edgeStatement {source target : String} {e : Edge}
    (hsne : source.toList ≠ []) (hsource : ∀ c ∈ source.toList, isWord c = true)
    (htne : target.toList ≠ []) (htarget : ∀ c ∈ target.toList, isWord c = true) :
    IsStatement (edgeStatement source target e) := by
  refine isStatement_of_word hsne hsource ?_ ?_
  · have hsplit : source.toList ++ ' ' :: (arrowText e ++ ' ' :: target.toList) =
        (source.toList ++ ' ' :: (arrowText e ++ [' '])) ++ target.toList := by simp
    rw [hsplit]
    exact stops_reverse_append (stops_reverse_of_word htarget) htne _
  · simp only [List.mem_append, List.mem_cons, not_or]
    exact ⟨by decide, lineFeed_not_mem_arrowText e, by decide, lineFeed_not_mem_of_word htarget⟩

end DiagramBridge.Mermaid.Flowchart
