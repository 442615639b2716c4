import DiagramBridge.Mermaid.ClassDiagram.Reader
import DiagramBridge.Proofs.Diagram.Building
import DiagramBridge.Proofs.Text.Blank

/-!
# What the reader of class diagrams builds

The names, labels and members that a statement brings are cut out of its line. A declared class has a
word for a name, a related one a name without white space. Every mention makes a class, and later
mentions keep it one. Every edge is a relation between two classes that were mentioned before it was
added, and its label is trimmed. Members are only ever added.
-/

namespace DiagramBridge.Mermaid.ClassDiagram

open Text DiagramBridge.Graph

/-! ## Texts of a statement -/

/-- All characters of a statement. -/
def Statement.text : Statement → List Char
  | declaration id label _ => id ++ label
  | relation left right label _ => left ++ right ++ label
  | member id text => id ++ text

theorem displayLabel?_subset {s label : List Char} {opens : Bool}
    (h : displayLabel? s = some (label, opens)) : label ⊆ s := by
  induction s generalizing label with
  | nil => exact absurd h (by simp [displayLabel?])
  | cons c s ih =>
      rw [displayLabel?] at h
      split at h
      · obtain ⟨rfl, -⟩ := Prod.mk.inj (Option.some.inj h)
        exact List.nil_subset _
      · obtain ⟨⟨label', opens'⟩, hlabel, heq⟩ := Option.map_eq_some_iff.1 h
        obtain ⟨rfl, rfl⟩ := Prod.mk.inj heq
        exact List.cons_subset_cons c (ih hlabel)

theorem dropTypeParameters?_subset {s rest : List Char} (h : dropTypeParameters? s = some rest) :
    rest ⊆ s := by
  rw [dropTypeParameters?.eq_def] at h
  split at h
  · next t =>
    obtain ⟨⟨front, t'⟩, hcut, rfl⟩ := Option.map_eq_some_iff.1 h
    exact List.Subset.trans (cutAt?_subset hcut).2 (List.subset_cons_self _ t)
  · rw [← Option.some.inj h]
    exact List.Subset.refl _

theorem dropCardinality?_subset {s rest : List Char} (h : dropCardinality? s = some rest) :
    rest ⊆ s := by
  rw [dropCardinality?.eq_def] at h
  split at h
  · next t =>
    obtain ⟨⟨front, t'⟩, hcut, rfl⟩ := Option.map_eq_some_iff.1 h
    calc trimStart t'
        ⊆ t' := trimStart_subset t'
      _ ⊆ t := (cutAt?_subset hcut).2
      _ ⊆ '"' :: t := List.subset_cons_self _ t
  · rw [← Option.some.inj h]
    exact List.Subset.refl _

/-! ## Statements cut out of a line -/

/-- What holds of the names and the label of every statement. -/
def Statement.IsTidy : Statement → Prop
  | declaration id _ _ => IsWordRun id
  | relation left right label _ => IsWordRun left ∧ IsWordRun right ∧ IsTrimmed label
  | member id _ => IsWordRun id

/-- A statement that can come from a line: it is tidy, and has only characters of the line. -/
structure Statement.IsCutFrom (st : Statement) (line : List Char) : Prop where
  isTidy : st.IsTidy
  subset : st.text ⊆ line

theorem Statement.IsCutFrom.mono {st : Statement} {s t : List Char} (h : st.IsCutFrom s)
    (hs : s ⊆ t) : st.IsCutFrom t :=
  ⟨h.isTidy, List.Subset.trans h.subset hs⟩

theorem isCutFrom_declaration {s id label : List Char} (hid : IsWordRun id) (hs : id ⊆ s)
    (hlabel : label ⊆ s) (opens : Bool) : (Statement.declaration id label opens).IsCutFrom s :=
  ⟨hid, List.append_subset.2 ⟨hs, hlabel⟩⟩

theorem isCutFrom_relation {s left right label : List Char} (hleft : IsWordRun left)
    (hs : left ⊆ s) (h : IsNamedText s right label) (symbol : Symbol) :
    (Statement.relation left right label symbol).IsCutFrom s := by
  refine ⟨⟨hleft, h.isWordRun, h.isTrimmed⟩, ?_⟩
  rw [Statement.text, List.append_assoc]
  exact List.append_subset.2 ⟨hs, h.subset⟩

theorem isCutFrom_of_declaration? {line : List Char} {st : Statement}
    (h : declaration? line = some st) : st.IsCutFrom line := by
  rw [declaration?, Option.bind_eq_bind, Option.bind_eq_some_iff] at h
  obtain ⟨s, hs, h⟩ := h
  refine Statement.IsCutFrom.mono ?_ (after?_subset hs)
  split at h
  · exact absurd h (by simp)
  · next b t =>
    obtain ⟨hname, hrest⟩ := span_subset isWord (trimStart t)
    refine Statement.IsCutFrom.mono ?_
      (List.Subset.trans (trimStart_subset t) (List.subset_cons_self b t))
    split_ifs at h
    dsimp only at h
    split_ifs at h with hempty
    have hid : IsWordRun (spanWord (trimStart t)).1 :=
      isWordRun_span (fun _ => isBlank_of_isWord) (mt List.isEmpty_iff.2 hempty)
    rw [Option.bind_eq_bind, Option.bind_eq_some_iff] at h
    obtain ⟨rest, hdrop, h⟩ := h
    split at h
    · next u heq =>
      rw [Option.bind_eq_some_iff] at h
      obtain ⟨⟨label, opens⟩, hlabel, h⟩ := h
      rw [← Option.some.inj h]
      have hinside : label ⊆ trimStart u := by
        refine List.Subset.trans (displayLabel?_subset hlabel) ?_
        split
        · next v hquote => exact hquote ▸ List.subset_cons_self _ v
        · exact List.Subset.refl _
      have hshown : label ⊆ trimStart t := calc
        label ⊆ trimStart u := hinside
        _ ⊆ u := trimStart_subset u
        _ ⊆ '[' :: u := List.subset_cons_self _ u
        _ ⊆ rest := heq ▸ trimStart_subset rest
        _ ⊆ (spanWord (trimStart t)).2 := dropTypeParameters?_subset hdrop
        _ ⊆ trimStart t := hrest
      refine isCutFrom_declaration hid hname ?_ opens
      split_ifs
      · exact hname
      · exact hshown
    · rw [Option.bind_eq_bind, Option.bind_eq_some_iff] at h
      obtain ⟨opens, -, h⟩ := h
      rw [← Option.some.inj h]
      exact isCutFrom_declaration hid hname hname opens

theorem isNamedText_of_rightSide? {s right label : List Char}
    (h : rightSide? s = some (right, label)) : IsNamedText s right label := by
  rw [rightSide?, Option.bind_eq_bind, Option.bind_eq_some_iff] at h
  obtain ⟨t, ht, h⟩ := h
  obtain ⟨hright, hrest⟩ := span_subset (fun c => !isBlank c && c != '"' && c != ':') t
  refine IsNamedText.mono ?_ (List.Subset.trans (dropCardinality?_subset ht) (trimStart_subset s))
  dsimp only at h
  split_ifs at h with hempty
  have hname : IsWordRun (t.span fun c => !isBlank c && c != '"' && c != ':').1 := by
    refine isWordRun_span (fun c hc => ?_) (mt List.isEmpty_iff.2 hempty)
    rw [Bool.and_eq_true, Bool.and_eq_true, Bool.not_eq_true'] at hc
    exact hc.1.1
  split at h
  · obtain ⟨rfl, rfl⟩ := Prod.mk.inj (Option.some.inj h)
    exact isNamedText_nil hname hright
  · next u heq =>
    obtain ⟨rfl, rfl⟩ := Prod.mk.inj (Option.some.inj h)
    refine isNamedText_trim hname hright ?_
    calc u
        ⊆ ':' :: u := List.subset_cons_self _ u
      _ ⊆ (t.span fun c => !isBlank c && c != '"' && c != ':').2 := heq ▸ trimStart_subset _
      _ ⊆ t := hrest
  · exact absurd h (by simp)

theorem isNamedText_of_symbol? {s right label : List Char} {symbol : Symbol}
    (h : symbol? s = some (symbol, right, label)) : IsNamedText s right label := by
  rw [symbol?] at h
  obtain ⟨found, -, h⟩ := List.exists_of_findSome?_eq_some h
  obtain ⟨⟨r, l⟩, hside, heq⟩ := Option.map_eq_some_iff.1 h
  obtain ⟨-, rfl, rfl⟩ := heq
  obtain ⟨rest, hrest, hside⟩ := Option.bind_eq_some_iff.1 hside
  exact (isNamedText_of_rightSide? hside).mono (after?_subset hrest)

theorem isCutFrom_of_symbolAfterName? {s left right label : List Char} {symbol : Symbol}
    (h : symbolAfterName? s = some (left, symbol, right, label)) :
    (Statement.relation left right label symbol).IsCutFrom s := by
  induction s generalizing left with
  | nil => exact absurd h (by simp [symbolAfterName?])
  | cons c s ih =>
      rw [symbolAfterName?] at h
      split_ifs at h with hend
      have hc : isBlank c = false :=
        Bool.eq_false_iff.2 fun hblank => hend (by rw [hblank, Bool.true_or])
      split at h
      · next found hfound =>
        obtain ⟨rfl, rfl⟩ := Prod.mk.inj (Option.some.inj h)
        obtain ⟨rest, hrest, hfound⟩ := Option.bind_eq_some_iff.1 hfound
        refine isCutFrom_relation ⟨by simp, by simpa using hc⟩ (by simp) ?_ symbol
        refine (isNamedText_of_symbol? hfound).mono ?_
        calc rest
            ⊆ trimStart s := dropCardinality?_subset hrest
          _ ⊆ s := trimStart_subset s
          _ ⊆ c :: s := List.subset_cons_self c s
      · obtain ⟨⟨name, found⟩, hfound, heq⟩ := Option.map_eq_some_iff.1 h
        obtain ⟨rfl, rfl⟩ := Prod.mk.inj heq
        obtain ⟨⟨hleft, hrest⟩, hchars⟩ := ih hfound
        exact ⟨⟨⟨by simp, List.forall_mem_cons.2 ⟨hc, hleft.2⟩⟩, hrest⟩,
          List.cons_subset_cons c hchars⟩

theorem isCutFrom_of_member? {line : List Char} {st : Statement} (h : member? line = some st) :
    st.IsCutFrom line := by
  obtain ⟨hid, hrest⟩ := span_subset isWord line
  rw [member?] at h
  dsimp only at h
  split_ifs at h with hempty
  split at h
  · next t heq =>
    split_ifs at h
    rw [← Option.some.inj h]
    refine ⟨isWordRun_span (fun _ => isBlank_of_isWord) (mt List.isEmpty_iff.2 hempty),
      List.append_subset.2 ⟨hid, ?_⟩⟩
    calc trim t
        ⊆ t := trim_subset t
      _ ⊆ ':' :: t := List.subset_cons_self _ t
      _ ⊆ (spanWord line).2 := heq ▸ trimStart_subset _
      _ ⊆ line := hrest
  · exact absurd h (by simp)

/-- Every statement is cut out of its line. -/
theorem isCutFrom_of_ofLine? {line : List Char} {st : Statement}
    (h : Statement.ofLine? line = some st) : st.IsCutFrom line := by
  rw [Statement.ofLine?, Option.or_eq_some_iff, Option.or_eq_some_iff] at h
  rcases h with (h | ⟨-, h⟩) | ⟨-, h⟩
  · exact isCutFrom_of_declaration? h
  · obtain ⟨⟨left, symbol, right, label⟩, hfound, rfl⟩ := Option.map_eq_some_iff.1 h
    exact isCutFrom_of_symbolAfterName? hfound
  · exact isCutFrom_of_member? h

/-! ## Graphs of class diagrams -/

/-- A node that a class diagram can have. -/
structure IsClassNode (n : Node) : Prop where
  kind : n.kind = .classLike
  shape : n.shape = .classBox

/-- An edge that a class diagram can have. -/
structure IsClassEdge (e : Edge) : Prop where
  relation : e.relation.isSome = true
  id : ∀ c ∈ e.id.toList, isWord c = true

/-- A graph that a class diagram can have. -/
abbrev IsClasses (g : Graph) : Prop :=
  g.Consists IsClassNode IsClassEdge

/-- What the lines of a class diagram can put into its graph. -/
def material (p : Char → Prop) : Material where
  mention m := IsReadMention .classDiagram p m ∧ m.shape = some .classBox
  link l := IsReadLink p l ∧ l.relation.isSome = true
  member := IsReadMember .classDiagram p

theorem isReadFrom_material (p : Char → Prop) : (material p).IsReadFrom .classDiagram p :=
  ⟨fun _ hm => hm.1, fun _ hl => hl.1, fun _ hs => hs⟩

theorem isClasses_of_steps {p : Char → Prop} {g : Graph} (h : Steps (material p) .empty g) :
    IsClasses g := by
  refine h.consists (fun m hm => ⟨⟨hm.1.kind, ?_⟩, fun n label hn _ => ⟨hn.kind, ?_⟩⟩)
    (fun g l hl => ⟨hl.2, ?_⟩) fun n s _ hn => ⟨hn.kind, hn.shape⟩
  · rw [Mention.toNode, hm.2, Option.getD_some]
  · rw [relabelled, hm.2, Option.getD_some]
  · rw [edgeOf, if_pos hl.1.id]
    exact isWord_freshEdgeId g

/-! ## Steps of the reader -/

section

variable {p : Char → Prop}

theorem step_mentionClass (g : Graph) {id : List Char} (hid : IsWordRun id) (hchars : ∀ c ∈ id, p c)
    (label : Option (List Char)) (hlabel : ∀ l ∈ label, ∀ c ∈ l, p c) :
    Step (material p) g (mentionClass g (String.ofList id) (label.map String.ofList)) :=
  .mention g ⟨isReadMention_ofList hid hchars hlabel _, rfl⟩

theorem isReadMember_ofList {s : List Char} (h : ∀ c ∈ s, p c) :
    IsReadMember .classDiagram p (String.ofList s) :=
  ⟨rfl, by rwa [String.toList_ofList]⟩

/-- The two classes of a relation are mentioned before it is added. -/
theorem Progress.steps_step (q : Progress) {st : Statement} (h : st.IsTidy)
    (hst : ∀ c ∈ st.text, p c) : Steps (material p) q.graph (q.step st).graph := by
  cases st with
  | declaration id label opensBody =>
      rw [Statement.text, List.forall_mem_append] at hst
      refine .single (step_mentionClass _ h hst.1 (some label) fun l hl => ?_)
      rw [← Option.some.inj hl]
      exact hst.2
  | relation left right label symbol =>
      obtain ⟨hleft, hright, hlabel⟩ := h
      rw [Statement.text, List.forall_mem_append, List.forall_mem_append] at hst
      obtain ⟨⟨hleftChars, hrightChars⟩, hlabelChars⟩ := hst
      have hclasses :=
        (Relation.ReflTransGen.single
          (step_mentionClass q.graph hleft hleftChars none (by simp))).tail
        (step_mentionClass _ hright hrightChars none (by simp))
      have hmemLeft : String.ofList left ∈ (mentionClass (mentionClass q.graph
          (String.ofList left) none) (String.ofList right) none).nodeIds :=
        mem_nodeIds_mention.2 (.inl (mem_nodeIds_mention.2 (.inr rfl)))
      have hmemRight : String.ofList right ∈ (mentionClass (mentionClass q.graph
          (String.ofList left) none) (String.ofList right) none).nodeIds :=
        mem_nodeIds_mention.2 (.inr rfl)
      refine hclasses.tail (.link ⟨⟨rfl, ?_, ?_⟩, rfl⟩ ?_ ?_)
      · rwa [String.toList_ofList]
      · rwa [String.toList_ofList]
      · cases symbol.reversed
        · exact hmemLeft
        · exact hmemRight
      · cases symbol.reversed
        · exact hmemRight
        · exact hmemLeft
  | member id text =>
      rw [Statement.text, List.forall_mem_append] at hst
      have hclass := step_mentionClass q.graph h hst.1 none (by simp)
      exact (Relation.ReflTransGen.single hclass).tail
        (.addMember _ _ (isReadMember_ofList hst.2))

/-- A line is a statement, or a member or the end of the body that is open. -/
theorem Progress.steps_readLine (q : Progress) {line : List Char} (hline : ∀ c ∈ line, p c) :
    Steps (material p) q.graph (q.readLine line).graph := by
  rw [Progress.readLine]
  split
  · split
    · exact .refl
    · exact .single (.addMember _ _ (isReadMember_ofList hline))
  · split
    · next st hst =>
      have hcut := isCutFrom_of_ofLine? hst
      exact q.steps_step hcut.isTidy fun c hc => hline c (hcut.subset hc)
    · exact .refl

/-- A class diagram is read in steps, with the characters of its lines. -/
theorem steps_read {body : List (List Char)} (hbody : ∀ line ∈ body, ∀ c ∈ line, p c) :
    Steps (material p) .empty (read body) :=
  List.foldlRecOn (motive := fun q => Steps (material p) .empty q.graph) body Progress.readLine
    .refl fun q h line hline => h.trans (q.steps_readLine (hbody line hline))

end

/-- Every class diagram that is read is one. -/
theorem isClasses_read (body : List (List Char)) : IsClasses (read body) :=
  isClasses_of_steps (p := fun _ => True) (steps_read fun _ _ _ _ => trivial)

end DiagramBridge.Mermaid.ClassDiagram
