import DiagramBridge.Mermaid.ClassDiagram.Writer
import DiagramBridge.Proofs.Drawio.Label
import DiagramBridge.Proofs.Mermaid.ClassDiagram.Declaration
import DiagramBridge.Proofs.Mermaid.ClassDiagram.Relation
import DiagramBridge.Proofs.Mermaid.Statements

/-!
# The lines of a written class diagram

A class is written as its declaration, one line for each member and a closing brace. What is shown of
it is a label without quotes and members on lines of their own. Every one of these lines holds a
statement if no member is empty, looks like the end of the body or like a comment, or loses its end.
Of the label of an edge that is blank only the colon is left.
-/

namespace DiagramBridge.Mermaid.ClassDiagram

open Drawio Text

/-! ## Labels between quotes -/

theorem unquotable_of_not_mem {label : List Char} (h : '"' ∉ label) : unquotable label = label := by
  rw [unquotable]
  conv_rhs => rw [← List.map_id label]
  refine List.map_congr_left fun c hc => ?_
  rw [if_neg fun heq : c = '"' => h (heq ▸ hc), id_eq]

theorem mem_unquotable {label : List Char} {c : Char} (h : c ∈ unquotable label) :
    c ∈ label ∧ c ≠ '"' ∨ c = '\'' := by
  obtain ⟨d, hd, rfl⟩ := List.mem_map.1 h
  split
  · exact Or.inr rfl
  · next hne => exact Or.inl ⟨hd, hne⟩

theorem quote_not_mem_unquotable (label : List Char) : '"' ∉ unquotable label := by
  intro h
  rcases mem_unquotable h with ⟨-, h⟩ | h
  · exact h rfl
  · exact absurd h (by decide)

/-- Only a word itself is shown as this word, for no word has an apostrophe. -/
theorem unquotable_eq_iff {label w : List Char} (hw : ∀ c ∈ w, isWord c = true) :
    unquotable label = w ↔ label = w := by
  constructor
  · rintro rfl
    refine (unquotable_of_not_mem fun h => ?_).symm
    have happostrophe : '\'' ∈ unquotable label := List.mem_map.2 ⟨'"', h, rfl⟩
    exact ne_of_isWord (hw _ happostrophe) (by decide) rfl
  · rintro rfl
    exact unquotable_of_not_mem fun h => ne_of_isWord (hw _ h) (by decide) rfl

/-! ## What is shown of a class -/

/-- A text that can be a line in the body of a class: it closes no body, is no comment and keeps its
end. -/
structure IsBodyLine (s : List Char) : Prop where
  nonempty : s ≠ []
  closing : Stops (· == '\x7d') s
  comment : startsWith "%%" s = false
  semicolon : Stops (· == ';') s.reverse

instance (s : List Char) : Decidable (IsBodyLine s) :=
  decidable_of_iff (_ ∧ _ ∧ _ ∧ _)
    ⟨fun h => ⟨h.1, h.2.1, h.2.2.1, h.2.2.2⟩, fun h => ⟨h.1, h.2, h.3, h.4⟩⟩

/-- The class that is shown for a node. It has its Mermaid id for a label if there is none. -/
def shownClass (id : String) (n : Node) : Node where
  id := id
  label :=
    if collapse n.label.toList = [] then id
    else String.ofList (unquotable (collapse n.label.toList))
  shape := .classBox
  kind := .classLike
  members := n.members.map (onChars collapse)

/-- A class that is shown as it is. -/
structure IsShown (n : Node) : Prop where
  labelled : n.label ≠ ""
  noQuote : '"' ∉ n.label.toList
  oneLine : '\n' ∉ n.label.toList
  members : ∀ m ∈ n.members, collapse m.toList = m.toList ∧ IsBodyLine m.toList

theorem toList_label_shownClass (id : String) {n : Node} (h : collapse n.label.toList ≠ []) :
    (shownClass id n).label.toList = unquotable (collapse n.label.toList) := by
  rw [shownClass, if_neg h, String.toList_ofList]

theorem isShown_shownClass {id : String} {n : Node} (hne : id.toList ≠ [])
    (hid : ∀ c ∈ id.toList, isWord c = true)
    (hn : ∀ m ∈ n.members, IsBodyLine (collapse m.toList)) : IsShown (shownClass id n) := by
  have hmembers : ∀ m ∈ (shownClass id n).members,
      collapse m.toList = m.toList ∧ IsBodyLine m.toList := by
    intro m hm
    obtain ⟨k, hk, rfl⟩ := List.mem_map.1 hm
    rw [toList_onChars, collapse_collapse]
    exact ⟨rfl, hn k hk⟩
  by_cases hlabel : collapse n.label.toList = []
  · have hshown : (shownClass id n).label = id := if_pos hlabel
    refine ⟨?_, ?_, ?_, hmembers⟩ <;> rw [hshown]
    · simpa using hne
    · exact fun h => ne_of_isWord (hid _ h) (by decide) rfl
    · exact lineFeed_not_mem_of_word hid
  · have hshown := toList_label_shownClass id hlabel
    refine ⟨fun h => hlabel ?_, ?_, ?_, hmembers⟩
    · rw [h] at hshown
      exact List.map_eq_nil_iff.1 hshown.symm
    · rw [hshown]
      exact quote_not_mem_unquotable _
    · rw [hshown]
      intro h
      rcases mem_unquotable h with ⟨h, -⟩ | h
      · exact lineFeed_not_mem_collapse _ h
      · exact absurd h (by decide)

/-! ## Statements of a class -/

/-- What stands behind the id of a declared class. -/
def declarationEnd (id : String) (n : Node) : List Char :=
  (if n.label = id then [] else quotedLabel n.label.toList) ++ openingMark (!n.members.isEmpty)

/-- The statement that declares a class. -/
def declarationStatement (id : String) (n : Node) : List Char :=
  "class ".toList ++ (id.toList ++ declarationEnd id n)

def classStatements (id : String) (n : Node) : List (List Char) :=
  declarationStatement id n ::
    if n.members.isEmpty then [] else n.members.map String.toList ++ ["\x7d".toList]

/-- A written declaration is read with its label, and it opens a body if there are members. -/
theorem ofLine?_declaration {id : String} {n : Node} (hne : id.toList ≠ [])
    (hid : ∀ c ∈ id.toList, isWord c = true) (hn : IsShown n) :
    Statement.ofLine? (declarationStatement id n) =
      some (.declaration id.toList n.label.toList (!n.members.isEmpty)) := by
  have hdeclaration : declaration? (declarationStatement id n) =
      some (.declaration id.toList n.label.toList (!n.members.isEmpty)) := by
    unfold declarationStatement declarationEnd
    by_cases hlabel : n.label = id
    · rw [if_pos hlabel, List.nil_append, declaration?_bare hne hid, hlabel]
    · rw [if_neg hlabel, declaration?_labelled hne hid (by simpa using hn.labelled) hn.noQuote]
  rw [Statement.ofLine?, hdeclaration]
  rfl

theorem lineFeed_not_mem_declarationEnd {id : String} {n : Node} (hn : IsShown n) :
    '\n' ∉ declarationEnd id n := by
  have hmark : ∀ opens, '\n' ∉ openingMark opens := by decide
  rw [declarationEnd, List.mem_append, not_or]
  refine ⟨?_, hmark _⟩
  split
  · exact List.not_mem_nil
  · rw [quotedLabel, List.mem_append, List.mem_append, not_or, not_or]
    exact ⟨⟨by decide, hn.oneLine⟩, by decide⟩

/-- A declaration ends in a brace, in a bracket or in its id. -/
theorem isStatement_declarationStatement {id : String} {n : Node} (hne : id.toList ≠ [])
    (hid : ∀ c ∈ id.toList, isWord c = true) (hn : IsShown n) :
    IsStatement (declarationStatement id n) := by
  have hmark : ∀ opens, Stops isLineEnd (openingMark opens).reverse := by decide
  have hlabel : Stops isLineEnd
      (if n.label = id then [] else quotedLabel n.label.toList).reverse := by
    split
    · exact stops_nil _
    · exact stops_reverse_append (by decide) (by decide) _
  have hrest : Stops isLineEnd (id.toList ++ declarationEnd id n).reverse :=
    (stops_reverse_of_word hid).reverse_append (hlabel.reverse_append (hmark _))
  have hword : declarationStatement id n =
      "class".toList ++ (' ' :: (id.toList ++ declarationEnd id n)) := rfl
  rw [hword]
  refine isStatement_of_word (by decide) (by decide) ?_ ?_
  · exact stops_reverse_append hrest (by simp [hne]) ("class ".toList)
  · rw [List.mem_cons, List.mem_append, not_or, not_or]
    exact ⟨by decide, lineFeed_not_mem_of_word hid, lineFeed_not_mem_declarationEnd hn⟩

theorem isStatement_of_isBodyLine {s : List Char} (hcollapsed : collapse s = s)
    (h : IsBodyLine s) : IsStatement s := by
  have htrimmed : IsTrimmed s := hcollapsed ▸ isTrimmed_collapse s
  refine ⟨?_, htrimmed.1, fun c hc => ?_, hcollapsed ▸ lineFeed_not_mem_collapse s⟩
  · rw [isContent, h.comment]
    simpa using h.nonempty
  · rw [isLineEnd, htrimmed.2 c hc, Bool.false_or]
    exact h.semicolon c hc

/-! ## Lines of a class -/

theorem label_shownClass_eq_iff {id : String} (hid : ∀ c ∈ id.toList, isWord c = true) (n : Node) :
    (shownClass id n).label = id ↔
      collapse n.label.toList = [] ∨ collapse n.label.toList = id.toList := by
  rw [shownClass]
  split
  · next h => exact iff_of_true rfl (Or.inl h)
  · next h => rw [or_iff_right h, ← unquotable_eq_iff hid, ← String.toList_inj, String.toList_ofList]

theorem declarationLine_append {id : String} (hid : ∀ c ∈ id.toList, isWord c = true) (n : Node) :
    declarationLine id n ++ openingMark (!n.members.isEmpty) =
      "    ".toList ++ declarationStatement id (shownClass id n) := by
  have hindent : "    class ".toList = "    ".toList ++ "class ".toList := by decide
  have hmembers : (shownClass id n).members.isEmpty = n.members.isEmpty := List.isEmpty_map
  have hlabel : (if (collapse n.label.toList).isEmpty || collapse n.label.toList == id.toList then []
      else "[\"".toList ++ unquotable (collapse n.label.toList) ++ "\"]".toList) =
        if (shownClass id n).label = id then [] else quotedLabel (shownClass id n).label.toList := by
    have hiff := label_shownClass_eq_iff hid n
    by_cases h : (shownClass id n).label = id
    · rw [if_pos h, if_pos (by simpa using hiff.1 h)]
    · have hne := not_or.1 (hiff.not.1 h)
      rw [if_neg h, if_neg (by simpa using hne), toList_label_shownClass id hne.1, quotedLabel]
  unfold declarationLine declarationStatement declarationEnd
  simp only [hlabel, hindent, hmembers]
  simp only [List.append_assoc]

/-- The lines of a class hold the statements of the class that is shown. -/
theorem forall₂_classLines {id : String} {n : Node} (hne : id.toList ≠ [])
    (hid : ∀ c ∈ id.toList, isWord c = true)
    (hn : ∀ m ∈ n.members, IsBodyLine (collapse m.toList)) :
    List.Forall₂ HoldsStatement (classLines id n) (classStatements id (shownClass id n)) := by
  have hindent : ∀ c ∈ "    ".toList, c = ' ' := by decide
  have hdeclaration := isStatement_declarationStatement hne hid (isShown_shownClass hne hid hn)
  have hline : declarationLine id n ++ openingMark (!n.members.isEmpty) =
      "    ".toList ++ declarationStatement id (shownClass id n) := declarationLine_append hid n
  have hshown : (shownClass id n).members = n.members.map (onChars collapse) := rfl
  rw [classLines, classStatements, hshown, List.isEmpty_map]
  by_cases hmembers : n.members.isEmpty = true
  · rw [hmembers, Bool.not_true, openingMark, if_neg (by simp), List.append_nil] at hline
    rw [if_pos hmembers, if_pos hmembers, hline]
    exact .cons ⟨hdeclaration, _, hindent, rfl⟩ .nil
  · rw [Bool.not_eq_true] at hmembers
    rw [hmembers, Bool.not_false, openingMark, if_pos rfl] at hline
    rw [hmembers, if_neg (by simp), if_neg (by simp), hline, List.cons_append]
    refine .cons ⟨hdeclaration, _, hindent, rfl⟩ (List.rel_append ?_ ?_)
    · rw [List.forall₂_map_left_iff, List.forall₂_map_right_iff, List.forall₂_map_right_iff,
        List.forall₂_same]
      intro m hm
      rw [toList_onChars]
      exact ⟨isStatement_of_isBodyLine (collapse_collapse _) (hn m hm), _, by decide, rfl⟩
    · exact .cons ⟨⟨by decide, by decide, by decide, by decide⟩, _, hindent, rfl⟩ .nil

/-! ## Relations -/

/-- What stands behind the classes of an edge when its line is trimmed. -/
def edgeMark (e : Edge) : List Char :=
  if e.label ≠ "" ∧ collapse e.label.toList = [] then " :".toList
  else labelMark (collapse e.label.toList)

def edgeStatement (source target : String) (e : Edge) : List Char :=
  source.toList ++ ' ' :: ((relationToken (edgeRelation e)).toList ++
    ' ' :: (target.toList ++ edgeMark e))

theorem isReadAsLabel_edgeMark (e : Edge) : IsReadAsLabel (edgeMark e) (collapse e.label.toList) := by
  rw [edgeMark]
  split
  · next h => exact Or.inr ⟨[], rfl, h.2.symm⟩
  · exact isReadAsLabel_labelMark (isTrimmed_collapse _)

theorem lineFeed_not_mem_edgeMark (e : Edge) : '\n' ∉ edgeMark e := by
  rw [edgeMark]
  split
  · decide
  · rw [labelMark]
    split
    · exact List.not_mem_nil
    · rw [List.mem_append, not_or]
      exact ⟨by decide, lineFeed_not_mem_collapse _⟩

theorem stops_edgeMark {e : Edge} (he : Stops (· == ';') (collapse e.label.toList).reverse) :
    Stops isLineEnd (edgeMark e).reverse := by
  rw [edgeMark]
  split
  · decide
  · rw [labelMark]
    split
    · exact stops_nil _
    · next hlabel =>
      refine stops_reverse_append (fun c hc => ?_) (by simpa using hlabel) _
      rw [isLineEnd, (isTrimmed_collapse _).2 c hc, Bool.false_or]
      exact he c hc

/-- A line of an edge ends in its label, and in a space if the label is blank. -/
theorem relationLine_eq (source target : String) (e : Edge) :
    ∃ b, (∀ c ∈ b, c = ' ') ∧
      relationLine source target e = "    ".toList ++ edgeStatement source target e ++ b := by
  have hmark : ∃ b, (∀ c ∈ b, c = ' ') ∧
      (if e.label = "" then [] else " : ".toList ++ collapse e.label.toList) = edgeMark e ++ b := by
    rw [edgeMark]
    by_cases hlabel : e.label = ""
    · rw [if_pos hlabel, if_neg fun h => h.1 hlabel, hlabel]
      exact ⟨[], by simp, rfl⟩
    · by_cases hblank : collapse e.label.toList = []
      · rw [if_neg hlabel, if_pos ⟨hlabel, hblank⟩, hblank]
        exact ⟨[' '], by simp, rfl⟩
      · rw [if_neg hlabel, if_neg fun h => hblank h.2, labelMark, if_neg (by simpa using hblank)]
        exact ⟨[], by simp, (List.append_nil _).symm⟩
  obtain ⟨b, hb, heq⟩ := hmark
  refine ⟨b, hb, ?_⟩
  unfold relationLine edgeStatement
  rw [heq]
  simp only [List.append_assoc, List.cons_append]

theorem isStatement_edgeStatement {source target : String} {e : Edge}
    (hsne : source.toList ≠ []) (hsource : ∀ c ∈ source.toList, isWord c = true)
    (htne : target.toList ≠ []) (htarget : ∀ c ∈ target.toList, isWord c = true)
    (he : Stops (· == ';') (collapse e.label.toList).reverse) :
    IsStatement (edgeStatement source target e) := by
  have htoken : '\n' ∉ (relationToken (edgeRelation e)).toList := by
    cases edgeRelation e <;> decide
  have hrest : Stops isLineEnd (target.toList ++ edgeMark e).reverse :=
    (stops_reverse_of_word htarget).reverse_append (stops_edgeMark he)
  refine isStatement_of_word hsne hsource ?_ ?_
  · have hsplit : source.toList ++ ' ' :: ((relationToken (edgeRelation e)).toList ++
        ' ' :: (target.toList ++ edgeMark e)) =
          (source.toList ++ ' ' :: ((relationToken (edgeRelation e)).toList ++ [' '])) ++
            (target.toList ++ edgeMark e) := by simp
    rw [hsplit]
    exact stops_reverse_append hrest (by simp [htne]) _
  · simp only [List.mem_cons, List.mem_append, not_or]
    exact ⟨by decide, htoken, by decide, lineFeed_not_mem_of_word htarget,
      lineFeed_not_mem_edgeMark e⟩

/-! ## Labels and members that stay as they are -/

/-- A member that is read back from its line: it closes no body, is no comment and keeps its end. -/
structure IsPlainMember (s : List Char) : Prop where
  nonempty : s ≠ []
  normal : IsNormalLine s
  closing : Stops (· == '\x7d') s
  comment : startsWith "%%" s = false
  semicolon : Stops (· == ';') s.reverse

instance (s : List Char) : Decidable (IsPlainMember s) :=
  decidable_of_iff (_ ∧ _ ∧ _ ∧ _ ∧ _)
    ⟨fun h => ⟨h.1, h.2.1, h.2.2.1, h.2.2.2.1, h.2.2.2.2⟩, fun h => ⟨h.1, h.2, h.3, h.4, h.5⟩⟩

/-- A class whose label and members can stand in a class diagram. -/
structure IsPlainClass (n : Node) : Prop where
  labelled : n.label ≠ ""
  label : IsNormalLine n.label.toList
  members : ∀ m ∈ n.members, IsPlainMember m.toList

/-- An edge whose label can stand in a class diagram. -/
structure IsPlainLabel (label : List Char) : Prop where
  normal : IsNormalLine label
  semicolon : Stops (· == ';') label.reverse

instance (label : List Char) : Decidable (IsPlainLabel label) :=
  decidable_of_iff (_ ∧ _) ⟨fun h => ⟨h.1, h.2⟩, fun h => ⟨h.1, h.2⟩⟩

theorem IsPlainMember.isBodyLine {s : List Char} (h : IsPlainMember s) : IsBodyLine (collapse s) := by
  rw [h.normal.collapsed]
  exact ⟨h.nonempty, h.closing, h.comment, h.semicolon⟩

theorem onChars_collapse_of_isNormalLine {s : String} (h : IsNormalLine s.toList) :
    onChars collapse s = s := by
  rw [onChars, h.collapsed, String.ofList_toList]

end DiagramBridge.Mermaid.ClassDiagram
