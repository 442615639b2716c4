import DiagramBridge.Proofs.Mermaid.Sequence.RoundTrip
import DiagramBridge.Proofs.Mermaid.WellFormed

/-!
# Messages between hyphenated names

A name of words with single hyphens between is read as it stands, although every hyphen in it might
begin an arrow: an arrow goes on with a second dash, a bracket or the letter `x`, and in a name a
letter comes next. The letter `x` is the exception. A hyphen and an `x` inside the name on the left
are taken for the arrow that ends in a cross, wherever they stand, and what follows them up to the
colon becomes the receiver, the arrow that was written included.
-/

namespace DiagramBridge.Mermaid.Sequence

open Text

/-! ## Names -/

/-- A text of words with single hyphens between them. -/
def IsHyphenated (s : List Char) : Prop :=
  ∀ w ∈ s.splitOn '-', w ≠ [] ∧ ∀ c ∈ w, isWord c = true

instance (s : List Char) : Decidable (IsHyphenated s) :=
  inferInstanceAs (Decidable (∀ w ∈ s.splitOn '-', _))

theorem isHyphenated_append_iff {s t : List Char} :
    IsHyphenated (s ++ '-' :: t) ↔ IsHyphenated s ∧ IsHyphenated t := by
  simp only [IsHyphenated, List.splitOn_eq_splitOnP]
  rw [List.splitOnP_append_cons s t (by decide), List.forall_mem_append]

section

variable {s : List Char} (h : IsHyphenated s)
include h

theorem IsHyphenated.exists_cons : ∃ c t, s = c :: t ∧ isWord c = true := by
  obtain ⟨w, ws, hws⟩ := List.exists_cons_of_ne_nil (List.splitOn_ne_nil '-' s)
  obtain ⟨hne, hw⟩ := h w (by simp [hws])
  obtain ⟨rest, hrest⟩ := exists_intercalate_cons_eq ['-'] w ws
  obtain ⟨c, t, rfl⟩ := List.exists_cons_of_ne_nil hne
  rw [← hws, List.intercalate_splitOn] at hrest
  exact ⟨c, t ++ rest, hrest, hw c (by simp)⟩

theorem IsHyphenated.char_cases {c : Char} (hc : c ∈ s) : c = '-' ∨ isWord c = true := by
  have hjoined : List.intercalate ['-'] (s.splitOn '-') = s := List.intercalate_splitOn '-'
  rw [← hjoined] at hc
  rcases mem_intercalate hc with hc | ⟨w, hw, hc⟩
  · exact Or.inl (List.mem_singleton.1 hc)
  · exact Or.inr ((h w hw).2 c hc)

theorem IsHyphenated.isNameChar {c : Char} (hc : c ∈ s) : isNameChar c = true := by
  rcases h.char_cases hc with rfl | hc
  · decide
  · exact isNameChar_of_isWord hc

end

/-! ## Arrows -/

/-- The arrows that have a head or none, but no cross and no open head. -/
def plainArrows : List String := ["->>", "-->>", "->", "-->"]

/-- Behind its first dash, every arrow but one goes on with something that is in no word. -/
theorem exists_arrow_eq {arrow : String} (h : arrow ∈ arrows) (hne : arrow ≠ "-x") :
    ∃ d t, arrow.toList = '-' :: d :: t ∧ isWord d = false := by
  simp only [arrows, List.mem_cons, List.not_mem_nil, or_false] at h
  rcases h with rfl | rfl | rfl | rfl | rfl | rfl | rfl | rfl
  all_goals first | exact absurd rfl hne | exact ⟨_, _, rfl, by decide⟩

/-- Where a letter follows a single dash, no arrow begins unless the letter is an `x`. -/
theorem arrow?_dash {c : Char} (hc : isWord c = true) (s : List Char) :
    arrow? ('-' :: c :: s) =
      if c = 'x' then (marked? s).map fun found => (false, found) else none := by
  have hother (a : String) (ha : a ∈ arrows ∧ a ≠ "-x") : after? a ('-' :: c :: s) = none := by
    obtain ⟨d, t, heq, hd⟩ := exists_arrow_eq ha.1 ha.2
    rw [after?_eq_none_iff, heq, List.cons_prefix_cons, List.cons_prefix_cons]
    rintro ⟨-, rfl, -⟩
    exact absurd hc (by simp [hd])
  have hcross : after? "-x" ('-' :: c :: s) = if c = 'x' then some s else none := by
    split_ifs with hx
    · rw [hx]
      exact after?_append "-x" s
    · rw [after?_eq_none_iff]
      exact fun h => hx (List.cons_prefix_cons.1 (List.cons_prefix_cons.1 h).2).1.symm
  have hsingle : isDashed "-x" = false := by decide
  simp only [arrow?, arrows, List.findSome?_cons, List.findSome?_nil, hcross,
    hother "-->>" (by decide), hother "->>" (by decide), hother "-->" (by decide),
    hother "->" (by decide), hother "--x" (by decide), hother "--)" (by decide),
    hother "-)" (by decide), Option.bind_none, Option.map_none, hsingle]
  split_ifs
  · rw [Option.bind_some]
    cases marked? s <;> rfl
  · rfl

/-- A written arrow is the one that is found if a letter follows. -/
theorem arrow?_plainArrow {arrow : String} (harrow : arrow ∈ plainArrows) {c : Char}
    (hc : isWord c = true) {s : List Char} {found : List Char × List Char}
    (h : marked? (c :: s) = some found) :
    arrow? (arrow.toList ++ c :: s) = some (isDashed arrow, found) := by
  have hhead : ('>' == c) = false := beq_false_of_ne (ne_of_isWord hc (by decide)).symm
  simp only [plainArrows, List.mem_cons, List.not_mem_nil, or_false] at harrow
  rcases harrow with rfl | rfl | rfl | rfl
  all_goals simp [arrow?, arrows, after?, List.isPrefixOf?, hhead, h, isDashed, startsWith]

/-- No arrow begins inside a hyphenated name without a cross in it. -/
theorem arrow?_inside {name t : List Char} (hname : IsHyphenated name)
    (hcross : ¬ ['-', 'x'] <:+: name) (ht : t <:+ name) (hne : t ≠ []) (rest : List Char) :
    arrow? (t ++ rest) = none := by
  obtain ⟨front, rfl⟩ := ht
  obtain ⟨c, t, rfl⟩ := List.exists_cons_of_ne_nil hne
  rcases hname.char_cases (c := c) (by simp) with rfl | hc
  · obtain ⟨d, u, rfl, hd⟩ := (isHyphenated_append_iff.1 hname).2.exists_cons
    have hx : d ≠ 'x' := by
      rintro rfl
      exact hcross ⟨front, u, by simp⟩
    exact (arrow?_dash hd _).trans (if_neg hx)
  · exact arrow?_of_ne (ne_of_isWord hc (by decide)) _

/-! ## Lines -/

/-- A mark is one character. -/
theorem length_le_unmarked (s : List Char) : s.length ≤ (unmarked s).length + 1 := by
  rw [unmarked.eq_def]
  split <;> simp

theorem exists_plainArrow_eq {arrow : String} (h : arrow ∈ plainArrows) :
    ∃ s, arrow.toList = '-' :: s := by
  have hall : ∀ a ∈ plainArrows, ∃ s, a.toList = '-' :: s := by
    simp only [plainArrows, List.forall_mem_cons]
    exact ⟨⟨_, rfl⟩, ⟨_, rfl⟩, ⟨_, rfl⟩, ⟨_, rfl⟩, by simp⟩
  exact hall arrow h

section

variable {sender receiver : List Char} {arrow : String} (hsender : IsHyphenated sender)
  (hreceiver : IsHyphenated receiver) (harrow : arrow ∈ plainArrows)
include hsender

/-- A hyphen is no part of a keyword, so a line that begins with a name and a hyphen declares
nothing. -/
theorem participant?_hyphenated (rest : List Char) : participant? (sender ++ '-' :: rest) = none :=
  participant?_eq_none (fun _ hc => isBlank_of_isNameChar (hsender.isNameChar hc)) (by decide)
    (by decide)

include hreceiver harrow

/-- Between two names, of which the first has no cross, the written arrow is found. -/
theorem ofLine?_of_noCross (hcross : ¬ ['-', 'x'] <:+: sender) (label : List Char) :
    Statement.ofLine? (sender ++ (arrow.toList ++ (receiver ++ ':' :: label))) =
      some (.message sender receiver (trim label) (isDashed arrow)) := by
  obtain ⟨tail, htail⟩ := exists_plainArrow_eq harrow
  obtain ⟨c, r, hr, hc⟩ := hreceiver.exists_cons
  have hplain : unmarked receiver = receiver := by
    rw [hr]
    exact unmarked_of_isWord hc r
  have hmarked : marked? (receiver ++ ':' :: label) = some (receiver, trim label) := by
    have hne : unmarked receiver ≠ [] := by
      rw [hplain, hr]
      exact List.cons_ne_nil c r
    have h := marked?_labelled hne (fun _ => hreceiver.isNameChar) label
    rwa [hplain] at h
  have hfound : arrow? (trimStart (arrow.toList ++ (receiver ++ ':' :: label))) =
      some (isDashed arrow, receiver, trim label) := by
    have hstart : Stops isBlank (arrow.toList ++ (receiver ++ ':' :: label)) := by
      rw [htail]
      exact stops_cons_iff.2 (by decide)
    rw [trimStart_of_stops hstart]
    rw [hr] at hmarked ⊢
    exact arrow?_plainArrow harrow hc hmarked
  obtain ⟨d, s, hs, -⟩ := hsender.exists_cons
  have hread : arrowAfterName? (sender ++ (arrow.toList ++ (receiver ++ ':' :: label))) =
      some (sender, isDashed arrow, receiver, trim label) :=
    arrowAfterName?_append (by simp [hs]) (fun _ => hsender.isNameChar)
      (fun t ht hne => arrow?_inside hsender hcross ht hne _) hfound
  have hdeclared : participant? (sender ++ (arrow.toList ++ (receiver ++ ':' :: label))) = none := by
    rw [htail]
    exact participant?_hyphenated hsender _
  rw [Statement.ofLine?, hdeclared, Option.none_or, message?, hread]

omit hsender

/-- A cross in the first name is taken for the arrow. -/
theorem ofLine?_of_cross {front rest : List Char}
    (hsender : IsHyphenated (front ++ '-' :: 'x' :: rest)) (hcross : ¬ ['-', 'x'] <:+: front)
    (label : List Char) :
    Statement.ofLine?
        (front ++ '-' :: 'x' :: rest ++ (arrow.toList ++ (receiver ++ ':' :: label))) =
      some (.message front (unmarked (rest ++ arrow.toList ++ receiver)) (trim label) false) := by
  obtain ⟨tail, htail⟩ := exists_plainArrow_eq harrow
  obtain ⟨hfront, -⟩ := isHyphenated_append_iff.1 hsender
  have hname : ∀ c ∈ rest ++ arrow.toList ++ receiver, isNameChar c = true := by
    have harrows : ∀ a ∈ plainArrows, ∀ c ∈ a.toList, isNameChar c = true := by decide
    simp only [List.forall_mem_append]
    exact ⟨⟨fun c hc => hsender.isNameChar (by simp [hc]), harrows arrow harrow⟩,
      fun c hc => hreceiver.isNameChar hc⟩
  -- Even without the mark, the receiver that was written is left.
  have hne : unmarked (rest ++ arrow.toList ++ receiver) ≠ [] := by
    obtain ⟨c, r, hr, -⟩ := hreceiver.exists_cons
    have hlength := length_le_unmarked (rest ++ arrow.toList ++ receiver)
    intro hnil
    rw [hnil, htail, hr] at hlength
    simp only [List.length_append, List.length_cons, List.length_nil] at hlength
    omega
  have hmarked := marked?_labelled hne hname label
  have hfound : arrow? (trimStart ('-' :: 'x' :: (rest ++ arrow.toList ++ receiver ++
      ':' :: label))) = some (false, unmarked (rest ++ arrow.toList ++ receiver), trim label) := by
    rw [trimStart_cons_of_not_blank (by decide), arrow?_dash (by decide), if_pos rfl, hmarked]
    rfl
  obtain ⟨d, s, hs, -⟩ := hfront.exists_cons
  have hread : arrowAfterName? (front ++ '-' :: 'x' :: (rest ++ arrow.toList ++ receiver ++
      ':' :: label)) =
        some (front, false, unmarked (rest ++ arrow.toList ++ receiver), trim label) :=
    arrowAfterName?_append (by simp [hs]) (fun _ => hfront.isNameChar)
      (fun t ht hne => arrow?_inside hfront hcross ht hne _) hfound
  have hline : front ++ '-' :: 'x' :: rest ++ (arrow.toList ++ (receiver ++ ':' :: label)) =
      front ++ '-' :: 'x' :: (rest ++ arrow.toList ++ receiver ++ ':' :: label) := by simp
  rw [hline, Statement.ofLine?, participant?_hyphenated hfront, Option.none_or, message?, hread]

end

/-! ## Diagrams of one message -/

/-- Two mentions of ids add a node for each id. -/
theorem nodes_mention_mention (p q : String) :
    ((Graph.empty.mention { id := p }).mention { id := q }).nodes =
      [p, q].eraseDups.map fun id => ({ id } : Mention).toNode := by
  have hfirst : (Graph.empty.mention { id := p }).nodes = [({ id := p } : Mention).toNode] :=
    Graph.nodes_mention_of_new rfl
  by_cases hpq : q = p
  · subst hpq
    have hknown : (Graph.empty.mention { id := q }).hasNode q = true := by
      rw [Graph.hasNode_iff, hfirst]
      exact ⟨_, List.mem_singleton_self _, rfl⟩
    rw [Graph.nodes_mention_of_bare hknown rfl, hfirst]
    simp [List.eraseDups_cons]
  · have hnew : (Graph.empty.mention { id := p }).hasNode q = false := by
      rw [Graph.hasNode_eq_false_iff, hfirst]
      intro n hn
      rw [List.mem_singleton.1 hn]
      exact Ne.symm hpq
    rw [Graph.nodes_mention_of_new hnew, hfirst]
    simp [List.eraseDups_cons, hpq]

/-- A diagram of one message. -/
def oneMessage (sender arrow receiver text : String) : String :=
  "sequenceDiagram\n" ++ (sender ++ arrow ++ receiver ++ ": " ++ text)

theorem isStatement_header : IsStatement "sequenceDiagram".toList where
  content := by decide
  start := by decide
  ending := by decide
  oneLine := by decide

theorem toList_oneMessage (sender arrow receiver text : String) :
    (oneMessage sender arrow receiver text).toList = "sequenceDiagram".toList ++
      '\n' :: (sender.toList ++ (arrow.toList ++ receiver.toList) ++ ':' :: ' ' :: text.toList) := by
  have hline : (sender ++ arrow ++ receiver ++ ": " ++ text).toList =
      sender.toList ++ (arrow.toList ++ receiver.toList) ++ ':' :: ' ' :: text.toList := by
    simp
  have hheader : "sequenceDiagram\n".toList = "sequenceDiagram".toList ++ ['\n'] := by decide
  calc (oneMessage sender arrow receiver text).toList
      = "sequenceDiagram\n".toList ++ (sender ++ arrow ++ receiver ++ ": " ++ text).toList :=
        String.toList_append
    _ = "sequenceDiagram".toList ++ ['\n'] ++
          (sender.toList ++ (arrow.toList ++ receiver.toList) ++ ':' :: ' ' :: text.toList) :=
        congrArg₂ (· ++ ·) hheader hline
    _ = _ := List.append_assoc ..

theorem statements_oneMessage {sender arrow receiver text : String}
    (hsender : IsHyphenated sender.toList) (hreceiver : IsHyphenated receiver.toList)
    (harrow : arrow ∈ plainArrows) (hline : '\n' ∉ text.toList) :
    statements (oneMessage sender arrow receiver text).toList = ["sequenceDiagram".toList,
      sender.toList ++ (arrow.toList ++ (receiver.toList ++
        ':' :: statementEnd (' ' :: text.toList)))] := by
  have hnoFeed : ∀ a ∈ plainArrows, '\n' ∉ a.toList := by decide
  have hname : ∀ {name : List Char}, IsHyphenated name → '\n' ∉ name := fun h hmem =>
    absurd (h.isNameChar hmem) (by decide)
  obtain ⟨c, s, hs, hc⟩ := hsender.exists_cons
  have hfeed := hname hsender
  rw [hs, List.mem_cons, not_or] at hfeed
  have hfront : '\n' ∉ s ++ (arrow.toList ++ receiver.toList) := by
    simp [hfeed.2, hnoFeed arrow harrow, hname hreceiver]
  have hlabel : '\n' ∉ ' ' :: text.toList := by simp [hline]
  rw [toList_oneMessage, hs, List.cons_append,
    statements_labelledLine isStatement_header (by decide) hc hfront hlabel]
  simp

/-- The text is read as one message: an edge, and a node for each of its ends. -/
def IsReadAsMessage (text : String) (e : Edge) : Prop :=
  ∃ g, Mermaid.read text = .ok ⟨.sequence, g⟩ ∧ g.edges = [e] ∧
    g.nodes = [e.source, e.target].eraseDups.map fun id => ({ id } : Mention).toNode

theorem isReadAsMessage_of_ofLine? {text : String} {line source target label : List Char}
    {dashed : Bool} (hstatements : statements text.toList = ["sequenceDiagram".toList, line])
    (h : Statement.ofLine? line = some (.message source target label dashed)) :
    IsReadAsMessage text
      { id := "edge_0", source := String.ofList source, target := String.ofList target
        label := String.ofList label, lineStyle := if dashed then .dashed else .plain } := by
  have hheader : headerType? "sequenceDiagram".toList = some .sequence := by decide
  have hgraph : readBody .sequence [line] =
      step .empty (.message source target label dashed) := by
    rw [readBody, read, List.filterMap_cons_some h]
    rfl
  have hnodes : (readBody .sequence [line]).nodes =
      [String.ofList source, String.ofList target].eraseDups.map
        fun id => ({ id } : Mention).toNode := by
    rw [hgraph]
    exact nodes_mention_mention _ _
  refine ⟨_, read_of_statements hstatements hheader ?_, ?_, hnodes⟩
  · rw [hnodes]
    simp [List.eraseDups_cons]
  · have hid : Graph.empty.freshEdgeId = "edge_0" := by decide
    rw [hgraph, step, Graph.edges_link, Graph.edgeOf, Graph.freshEdgeId, Graph.edges_mention,
      Graph.edges_mention, ← Graph.freshEdgeId, hid]
    rfl

/-- **A message between hyphenated names is read with its ends, its text and the dashes of its
arrow unless a hyphen and an `x` stand in the first name.** Where they do, the message is cut at the
first of these places. -/
theorem isReadAsMessage_oneMessage {sender arrow receiver text : String}
    (hsender : IsHyphenated sender.toList) (hreceiver : IsHyphenated receiver.toList)
    (harrow : arrow ∈ plainArrows) (hline : '\n' ∉ text.toList)
    (hend : Stops isLineEnd text.toList.reverse) :
    (¬ ['-', 'x'] <:+: sender.toList →
      IsReadAsMessage (oneMessage sender arrow receiver text)
        { id := "edge_0", source := sender, target := receiver, label := onChars trim text
          lineStyle := if isDashed arrow then .dashed else .plain }) ∧
      ∀ front rest, sender.toList = front ++ '-' :: 'x' :: rest → ¬ ['-', 'x'] <:+: front →
        IsReadAsMessage (oneMessage sender arrow receiver text)
          { id := "edge_0", source := String.ofList front
            target := String.ofList (unmarked (rest ++ arrow.toList ++ receiver.toList))
            label := onChars trim text, lineStyle := .plain } := by
  have hstatements := statements_oneMessage hsender hreceiver harrow hline
  have hlabel : trim (statementEnd (' ' :: text.toList)) = trim text.toList := by
    rw [trim_statementEnd, statement_eq, trimStart_cons_of_blank (by decide), ← statement_eq,
      statement_of_stops hend]
  constructor
  · intro hcross
    have hread := ofLine?_of_noCross hsender hreceiver harrow hcross
      (statementEnd (' ' :: text.toList))
    rw [hlabel] at hread
    simpa only [String.ofList_toList, onChars] using isReadAsMessage_of_ofLine? hstatements hread
  · intro front rest hsplit hcross
    rw [hsplit] at hsender hstatements
    have hread := ofLine?_of_cross hreceiver harrow hsender hcross
      (statementEnd (' ' :: text.toList))
    rw [hlabel] at hread
    exact isReadAsMessage_of_ofLine? hstatements hread

/-- A cross in the second name only does no harm. -/
theorem isReadAsMessage_oneMessage_mobileApp :
    IsReadAsMessage (oneMessage "mobile-app" "-->>" "web-x" "go on: now")
        { id := "edge_0", source := "mobile-app", target := "web-x", label := "go on: now"
          lineStyle := .dashed } ∧
      IsReadAsMessage (oneMessage "web-x" "-->>" "mobile-app" "go on: now")
        { id := "edge_0", source := "web", target := "->>mobile-app", label := "go on: now"
          lineStyle := .plain } := by
  have hmobile : IsHyphenated "mobile-app".toList := by decide +kernel
  have hweb : IsHyphenated "web-x".toList := by decide +kernel
  have hlabel : onChars trim "go on: now" = "go on: now" := by decide
  have htarget : String.ofList (unmarked ([] ++ "-->>".toList ++ "mobile-app".toList)) =
      "->>mobile-app" := by decide
  have harrow : "-->>" ∈ plainArrows ∧ '\n' ∉ "go on: now".toList ∧
      Stops isLineEnd "go on: now".toList.reverse := by decide
  have hthere := (isReadAsMessage_oneMessage hmobile hweb harrow.1 harrow.2.1 harrow.2.2).1
    (by decide)
  have hback := (isReadAsMessage_oneMessage hweb hmobile harrow.1 harrow.2.1 harrow.2.2).2
    "web".toList [] (by decide) (by decide)
  rw [hlabel] at hthere hback
  rw [htarget] at hback
  exact ⟨hthere, hback⟩

/-- The hyphen and the `x` of a first name are taken for an arrow, and the arrow that was written
becomes part of the receiver. -/
theorem not_isReadAsMessage_dataXml :
    (IsHyphenated "data-xml".toList ∧ IsHyphenated "web-app".toList ∧ "->>" ∈ plainArrows ∧
        '\n' ∉ "go".toList ∧ Stops isLineEnd "go".toList.reverse) ∧
      IsReadAsMessage (oneMessage "data-xml" "->>" "web-app" "go")
        { id := "edge_0", source := "data", target := "ml->>web-app", label := "go" } ∧
      ¬ IsReadAsMessage (oneMessage "data-xml" "->>" "web-app" "go")
        { id := "edge_0", source := "data-xml", target := "web-app", label := "go" } := by
  have hstatements : statements (oneMessage "data-xml" "->>" "web-app" "go").toList =
      ["sequenceDiagram".toList, "data-xml->>web-app: go".toList] := by
    decide +kernel
  have hline : Statement.ofLine? "data-xml->>web-app: go".toList =
      some (.message "data".toList "ml->>web-app".toList "go".toList false) := by
    decide +kernel
  have hcut : IsReadAsMessage (oneMessage "data-xml" "->>" "web-app" "go")
      { id := "edge_0", source := "data", target := "ml->>web-app", label := "go" } :=
    isReadAsMessage_of_ofLine? hstatements hline
  refine ⟨by decide +kernel, hcut, fun hwhole => ?_⟩
  obtain ⟨g, hg, hedges, -⟩ := hcut
  obtain ⟨g', hg', hedges', -⟩ := hwhole
  rw [hg] at hg'
  obtain rfl : g = g' := (Diagram.mk.inj (Except.ok.inj hg')).2
  rw [hedges] at hedges'
  exact absurd hedges' (by decide)

end DiagramBridge.Mermaid.Sequence
