import DiagramBridge.Mermaid.Sequence.Writer
import DiagramBridge.Proofs.Mermaid.Sequence.Statement
import DiagramBridge.Proofs.Mermaid.Statements

/-!
# The lines of a written sequence diagram

A node is shown as a participant, or as an actor if it is a circle, and an edge as a message. Labels
are shown on one line; a blank one is replaced by the id of the node, or by a standing text. Every
line holds its statement if no label on it ends in a semicolon, and the statement is read as what is
shown.
-/

namespace DiagramBridge.Mermaid.Sequence

open Text

/-- The participant that is shown for a node. It has its Mermaid id for a label if there is none. -/
def shownParticipant (id : String) (n : Node) : Node where
  id := id
  label := if collapse n.label.toList = [] then id else onChars collapse n.label
  shape := if n.shape = .circle then .circle else .rectangle

/-- The message that is shown for an edge behind the given number of edges. -/
def shownMessage (id : String → String) (i : Nat) (e : Edge) : Edge where
  id := "edge_" ++ decimalString i
  source := id e.source
  target := id e.target
  label := if collapse e.label.toList = [] then "message" else onChars collapse e.label
  lineStyle := if e.lineStyle = .dashed then .dashed else .plain

/-- A label whose one line ends in no semicolon. -/
def KeepsEnd (label : String) : Prop :=
  Stops (· == ';') (collapse label.toList).reverse

instance (label : String) : Decidable (KeepsEnd label) :=
  inferInstanceAs (Decidable (Stops _ _))

theorem KeepsEnd.stops {label : String} (h : KeepsEnd label) :
    Stops isLineEnd (collapse label.toList).reverse := by
  intro c hc
  rw [isLineEnd, (isTrimmed_collapse _).2 c hc, Bool.false_or]
  exact h c hc

/-! ## Participants -/

/-- What stands behind the id of a declared participant. -/
def nameMark (id : String) (n : Node) : List Char :=
  if (shownParticipant id n).label = id then [] else " as ".toList ++ collapse n.label.toList

def participantStatement (id : String) (n : Node) : List Char :=
  (keyword (n.shape = .circle)).toList ++ ' ' :: (id.toList ++ nameMark id n)

theorem label_shownParticipant_eq_iff (id : String) (n : Node) :
    (shownParticipant id n).label = id ↔
      collapse n.label.toList = [] ∨ collapse n.label.toList = id.toList := by
  rw [shownParticipant]
  split
  · next h => exact iff_of_true rfl (Or.inl h)
  · next h => rw [or_iff_right h, ← String.toList_inj, toList_onChars]

theorem participantLine_eq (id : String) (n : Node) :
    participantLine id n = "    ".toList ++ participantStatement id n := by
  have hkeyword : (if n.shape = .circle then "actor" else "participant") =
      keyword (n.shape = .circle) := by
    by_cases h : n.shape = .circle
    · simp [keyword, h]
    · simp [keyword, h]
  have hmark : (if (collapse n.label.toList).isEmpty || collapse n.label.toList == id.toList then []
      else " as ".toList ++ collapse n.label.toList) = nameMark id n := by
    rw [nameMark]
    refine if_congr ?_ rfl rfl
    rw [label_shownParticipant_eq_iff]
    simp
  unfold participantLine participantStatement
  simp only [hkeyword, hmark, List.append_assoc, List.cons_append]

/-- A written declaration is read with the name that is shown. -/
theorem ofLine?_participantStatement {id : String} {n : Node} (hne : id.toList ≠ [])
    (hid : ∀ c ∈ id.toList, isWord c = true) :
    Statement.ofLine? (participantStatement id n) =
      some (.participant id.toList (shownParticipant id n).label.toList (n.shape = .circle)) := by
  have hstops : Stops (!isBlank ·) (nameMark id n) := by
    rw [nameMark]
    split
    · exact stops_nil _
    · exact stops_cons_iff.2 (by decide)
  have halias : alias? id.toList (nameMark id n) = some (shownParticipant id n).label.toList := by
    rw [nameMark]
    by_cases hlabel : (shownParticipant id n).label = id
    · rw [if_pos hlabel, hlabel, alias?_nil hid]
    · have hnamed : collapse n.label.toList ≠ [] :=
        (not_or.1 ((label_shownParticipant_eq_iff id n).not.1 hlabel)).1
      rw [if_neg hlabel, alias?_as _ hnamed (isTrimmed_collapse _), shownParticipant,
        if_neg hnamed, toList_onChars]
  rw [Statement.ofLine?, participantStatement, participant?_keyword,
    declared?_written _ hne hid hstops halias]
  rfl

theorem isStatement_participantStatement {id : String} {n : Node} (hne : id.toList ≠ [])
    (hid : ∀ c ∈ id.toList, isWord c = true) (hn : KeepsEnd n.label) :
    IsStatement (participantStatement id n) := by
  have hkeyword : ∀ actor, (keyword actor).toList ≠ [] ∧
      ∀ c ∈ (keyword actor).toList, isWord c = true := by decide
  obtain ⟨hkne, hkword⟩ := hkeyword (n.shape = .circle)
  have hmark : Stops isLineEnd (nameMark id n).reverse ∧ '\n' ∉ nameMark id n := by
    rw [nameMark]
    by_cases hlabel : (shownParticipant id n).label = id
    · rw [if_pos hlabel]
      exact ⟨stops_nil _, List.not_mem_nil⟩
    · have hnamed : collapse n.label.toList ≠ [] :=
        (not_or.1 ((label_shownParticipant_eq_iff id n).not.1 hlabel)).1
      rw [if_neg hlabel]
      refine ⟨stops_reverse_append hn.stops hnamed _, ?_⟩
      rw [List.mem_append, not_or]
      exact ⟨by decide, lineFeed_not_mem_collapse _⟩
  refine isStatement_of_word hkne hkword ?_ ?_
  · have hrest : Stops isLineEnd (id.toList ++ nameMark id n).reverse :=
      (stops_reverse_of_word hid).reverse_append hmark.1
    have hsplit : (keyword (n.shape = .circle)).toList ++ ' ' :: (id.toList ++ nameMark id n) =
        ((keyword (n.shape = .circle)).toList ++ [' ']) ++ (id.toList ++ nameMark id n) := by simp
    rw [hsplit]
    exact stops_reverse_append hrest (by simp [hne]) _
  · rw [List.mem_cons, List.mem_append, not_or, not_or]
    exact ⟨by decide, lineFeed_not_mem_of_word hid, hmark.2⟩

/-! ## Messages -/

def messageStatement (source target : String) (e : Edge) : List Char :=
  source.toList ++ ((messageArrow e.lineStyle).toList ++
    (target.toList ++ (": ".toList ++ messageText e)))

theorem messageLine_eq (source target : String) (e : Edge) :
    messageLine source target e = "    ".toList ++ messageStatement source target e := by
  unfold messageLine messageStatement
  simp only [List.append_assoc]

theorem messageText_eq (id : String → String) (i : Nat) (e : Edge) :
    messageText e = (shownMessage id i e).label.toList := by
  rw [messageText, shownMessage]
  by_cases h : collapse e.label.toList = []
  · rw [if_pos h, if_pos (List.isEmpty_iff.2 h)]
  · rw [if_neg h, if_neg (by simpa using h), toList_onChars]

theorem isTrimmed_messageText (e : Edge) : IsTrimmed (messageText e) := by
  rw [messageText]
  split
  · decide
  · exact isTrimmed_collapse _

/-- A written arrow is the first that is found. -/
theorem arrow?_written (style : LineStyle) {s : List Char} {found : List Char × List Char}
    (h : marked? s = some found) :
    arrow? ((messageArrow style).toList ++ s) = some (decide (style = .dashed), found) := by
  have hlong : after? "-->>" ("->>".toList ++ s) = none := rfl
  cases style with
  | dashed =>
      rw [arrow?, arrows, List.findSome?_cons, messageArrow, after?_append, Option.bind_some, h]
      rfl
  | plain | thick =>
      rw [arrow?, arrows, List.findSome?_cons, messageArrow, hlong, Option.bind_none,
        Option.map_none, List.findSome?_cons, after?_append, Option.bind_some, h]
      rfl

/-- A written message is read with its ends, its text and the style of its line. -/
theorem ofLine?_messageStatement {source target : String} {e : Edge}
    (hsne : source.toList ≠ []) (hsource : ∀ c ∈ source.toList, isWord c = true)
    (htne : target.toList ≠ []) (htarget : ∀ c ∈ target.toList, isWord c = true) :
    Statement.ofLine? (messageStatement source target e) =
      some (.message source.toList target.toList (messageText e) (e.lineStyle = .dashed)) := by
  obtain ⟨arrow, harrow⟩ : ∃ arrow, (messageArrow e.lineStyle).toList = '-' :: arrow := by
    cases e.lineStyle <;> exact ⟨_, rfl⟩
  have hdeclared : participant? (messageStatement source target e) = none := by
    rw [messageStatement, harrow, List.cons_append]
    exact participant?_eq_none (fun c hc => isBlank_of_isWord (hsource c hc)) (by decide)
      (by decide)
  have hmarked := marked?_written htne htarget (isTrimmed_messageText e)
  have hfound : arrow? (trimStart ((messageArrow e.lineStyle).toList ++
      (target.toList ++ (": ".toList ++ messageText e)))) =
        some (decide (e.lineStyle = .dashed), target.toList, messageText e) := by
    rw [trimStart_of_stops, arrow?_written e.lineStyle hmarked]
    rw [harrow]
    exact stops_cons_iff.2 (by decide)
  rw [Statement.ofLine?, hdeclared, Option.none_or, message?, messageStatement,
    arrowAfterName?_word hsne hsource hfound]

theorem isStatement_messageStatement {source target : String} {e : Edge}
    (hsne : source.toList ≠ []) (hsource : ∀ c ∈ source.toList, isWord c = true)
    (htarget : ∀ c ∈ target.toList, isWord c = true) (he : KeepsEnd e.label) :
    IsStatement (messageStatement source target e) := by
  have harrow : '\n' ∉ (messageArrow e.lineStyle).toList := by
    cases e.lineStyle <;> decide
  have htext : messageText e ≠ [] ∧ Stops isLineEnd (messageText e).reverse ∧
      '\n' ∉ messageText e := by
    rw [messageText]
    split
    · decide
    · next h => exact ⟨by simpa using h, he.stops, lineFeed_not_mem_collapse _⟩
  refine isStatement_of_word hsne hsource ?_ ?_
  · rw [← List.append_assoc, ← List.append_assoc, ← List.append_assoc]
    exact stops_reverse_append htext.2.1 htext.1 _
  · simp only [List.mem_append, not_or]
    exact ⟨harrow, lineFeed_not_mem_of_word htarget, by decide, htext.2.2⟩

end DiagramBridge.Mermaid.Sequence
