import DiagramBridge.Mermaid.Sequence.Reader
import DiagramBridge.Proofs.Diagram.Building
import DiagramBridge.Proofs.Mermaid.Sequence.Statement
import DiagramBridge.Proofs.Text.Blank

/-!
# What the reader of sequence diagrams builds

The names of participants and the texts of messages are cut out of their lines; names end at white
space, and texts are trimmed. A participant has no members, and a message runs between two
participants that were mentioned before it was added.
-/

namespace DiagramBridge.Mermaid.Sequence

open Text DiagramBridge.Graph

/-! ## Texts of a statement -/

/-- All characters of a statement. -/
def Statement.text : Statement → List Char
  | participant id label _ => id ++ label
  | message source target label _ => source ++ target ++ label

theorem alias?_subset {id s label : List Char} (h : alias? id s = some label) :
    label ⊆ id ++ s := by
  rw [alias?.eq_def] at h
  split at h
  · rw [← Option.some.inj h]
    exact List.Subset.trans (trim_subset id) (List.subset_append_left _ _)
  · next c t =>
    split at h
    · next b u hafter =>
      split_ifs at h
      rw [← Option.some.inj h]
      calc trim u
          ⊆ u := trim_subset u
        _ ⊆ b :: u := List.subset_cons_self b u
        _ ⊆ trimStart (c :: t) := afterKeyword?_subset hafter
        _ ⊆ c :: t := trimStart_subset _
        _ ⊆ id ++ c :: t := List.subset_append_right _ _
    · exact absurd h (by simp)

/-! ## Statements cut out of a line -/

/-- What holds of the names and the text of every statement. -/
def Statement.IsTidy : Statement → Prop
  | participant id _ _ => IsWordRun id
  | message source target label _ => IsWordRun source ∧ IsWordRun target ∧ IsTrimmed label

/-- A statement that can come from a line: it is tidy, and has only characters of the line. -/
structure Statement.IsCutFrom (st : Statement) (line : List Char) : Prop where
  isTidy : st.IsTidy
  subset : st.text ⊆ line

theorem Statement.IsCutFrom.mono {st : Statement} {s t : List Char} (h : st.IsCutFrom s)
    (hs : s ⊆ t) : st.IsCutFrom t :=
  ⟨h.isTidy, List.Subset.trans h.subset hs⟩

theorem isCutFrom_message {s source target label : List Char} (hsource : IsWordRun source)
    (hs : source ⊆ s) (h : IsNamedText s target label) (dashed : Bool) :
    (Statement.message source target label dashed).IsCutFrom s := by
  refine ⟨⟨hsource, h.isWordRun, h.isTrimmed⟩, ?_⟩
  rw [Statement.text, List.append_assoc]
  exact List.append_subset.2 ⟨hs, h.subset⟩

theorem isCutFrom_of_declared? {actor : Bool} {s : List Char} {st : Statement}
    (h : declared? actor s = some st) : st.IsCutFrom s := by
  rw [declared?.eq_def] at h
  split at h
  · exact absurd h (by simp)
  · next b t =>
    obtain ⟨hname, hrest⟩ := span_subset (!isBlank ·) (trimStart t)
    split_ifs at h
    dsimp only at h
    split_ifs at h with hempty
    obtain ⟨label, hlabel, rfl⟩ := Option.map_eq_some_iff.1 h
    have hid : IsWordRun ((trimStart t).span (!isBlank ·)).1 :=
      isWordRun_span (fun c hc => by simpa using hc) (by simpa using hempty)
    have hshown : label ⊆ trimStart t :=
      List.Subset.trans (alias?_subset hlabel) (List.append_subset.2 ⟨hname, hrest⟩)
    exact Statement.IsCutFrom.mono ⟨hid, List.append_subset.2 ⟨hname, hshown⟩⟩
      (List.Subset.trans (trimStart_subset t) (List.subset_cons_self b t))

theorem isCutFrom_of_participant? {line : List Char} {st : Statement}
    (h : participant? line = some st) : st.IsCutFrom line := by
  rw [participant?] at h
  split at h
  · next rest hrest => exact (isCutFrom_of_declared? h).mono (afterKeyword?_subset hrest)
  · obtain ⟨rest, hrest, h⟩ := Option.bind_eq_some_iff.1 h
    exact (isCutFrom_of_declared? h).mono (afterKeyword?_subset hrest)

theorem isNamedText_of_receiver? {s target label : List Char}
    (h : receiver? s = some (target, label)) : IsNamedText s target label := by
  obtain ⟨htarget, hrest⟩ := span_subset isNameChar (trimStart s)
  have hs := trimStart_subset s
  rw [receiver?] at h
  dsimp only at h
  split_ifs at h with hempty
  have hname : IsWordRun ((trimStart s).span isNameChar).1 :=
    isWordRun_span (fun _ => isBlank_of_isNameChar) (by simpa using hempty)
  split at h
  · obtain ⟨rfl, rfl⟩ := Prod.mk.inj (Option.some.inj h)
    exact (isNamedText_nil hname htarget).mono hs
  · next t heq =>
    obtain ⟨rfl, rfl⟩ := Prod.mk.inj (Option.some.inj h)
    refine isNamedText_trim hname (List.Subset.trans htarget hs) ?_
    calc t
        ⊆ ':' :: t := List.subset_cons_self _ t
      _ ⊆ ((trimStart s).span isNameChar).2 := heq ▸ trimStart_subset _
      _ ⊆ s := List.Subset.trans hrest hs
  · exact absurd h (by simp)

theorem isNamedText_of_marked? {s target label : List Char} (h : marked? s = some (target, label)) :
    IsNamedText s target label := by
  rw [marked?] at h
  refine IsNamedText.mono ?_ (trimStart_subset s)
  split at h
  · next c rest heq =>
    split_ifs at h
    · rw [Option.or_eq_some_iff] at h
      rcases h with h | ⟨-, h⟩
      · exact (isNamedText_of_receiver? h).mono (heq ▸ List.subset_cons_self c rest)
      · exact isNamedText_of_receiver? h
    · exact isNamedText_of_receiver? h
  · exact absurd h (by simp)

theorem isNamedText_of_arrow? {s target label : List Char} {dashed : Bool}
    (h : arrow? s = some (dashed, target, label)) : IsNamedText s target label := by
  rw [arrow?] at h
  obtain ⟨arrow, -, h⟩ := List.exists_of_findSome?_eq_some h
  obtain ⟨⟨t, l⟩, hmarked, heq⟩ := Option.map_eq_some_iff.1 h
  obtain ⟨-, rfl, rfl⟩ := heq
  obtain ⟨rest, hrest, hmarked⟩ := Option.bind_eq_some_iff.1 hmarked
  exact (isNamedText_of_marked? hmarked).mono (after?_subset hrest)

theorem isCutFrom_of_arrowAfterName? {s source target label : List Char} {dashed : Bool}
    (h : arrowAfterName? s = some (source, dashed, target, label)) :
    (Statement.message source target label dashed).IsCutFrom s := by
  induction s generalizing source with
  | nil => exact absurd h (by simp [arrowAfterName?])
  | cons c s ih =>
      rw [arrowAfterName?] at h
      split_ifs at h with hname
      have hc : isBlank c = false := isBlank_of_isNameChar (by simpa using hname)
      split at h
      · next found hfound =>
        obtain ⟨rfl, rfl⟩ := Prod.mk.inj (Option.some.inj h)
        refine isCutFrom_message ⟨by simp, by simpa using hc⟩ (by simp) ?_ dashed
        exact (isNamedText_of_arrow? hfound).mono
          (List.Subset.trans (trimStart_subset s) (List.subset_cons_self c s))
      · obtain ⟨⟨name, found⟩, hfound, heq⟩ := Option.map_eq_some_iff.1 h
        obtain ⟨rfl, rfl⟩ := Prod.mk.inj heq
        obtain ⟨⟨hsource, hrest⟩, hchars⟩ := ih hfound
        exact ⟨⟨⟨by simp, List.forall_mem_cons.2 ⟨hc, hsource.2⟩⟩, hrest⟩,
          List.cons_subset_cons c hchars⟩

theorem isCutFrom_of_dashMessage? {line : List Char} {st : Statement}
    (h : dashMessage? line = some st) : st.IsCutFrom line := by
  obtain ⟨hsource, hrest⟩ := span_subset (!isBlank ·) line
  rw [dashMessage?] at h
  dsimp only at h
  split_ifs at h with hempty
  split at h
  · next b t heq =>
    split_ifs at h
    obtain ⟨⟨target, label⟩, hreceiver, rfl⟩ := Option.map_eq_some_iff.1 h
    have hname : IsWordRun (line.span (!isBlank ·)).1 :=
      isWordRun_span (fun c hc => by simpa using hc) (by simpa using hempty)
    refine isCutFrom_message hname hsource ((isNamedText_of_receiver? hreceiver).mono ?_) false
    calc t
        ⊆ b :: t := List.subset_cons_self b t
      _ ⊆ '-' :: b :: t := List.subset_cons_self '-' _
      _ ⊆ (line.span (!isBlank ·)).2 := heq ▸ trimStart_subset _
      _ ⊆ line := hrest
  · exact absurd h (by simp)

/-- Every statement is cut out of its line. -/
theorem isCutFrom_of_ofLine? {line : List Char} {st : Statement}
    (h : Statement.ofLine? line = some st) : st.IsCutFrom line := by
  rw [Statement.ofLine?, Option.or_eq_some_iff] at h
  rcases h with h | ⟨-, h⟩
  · exact isCutFrom_of_participant? h
  · rw [message?] at h
    split at h
    · next hfound =>
      rw [← Option.some.inj h]
      exact isCutFrom_of_arrowAfterName? hfound
    · exact isCutFrom_of_dashMessage? h

/-! ## Steps of the reader -/

/-- What the lines of a sequence diagram can put into its graph. -/
def material (p : Char → Prop) : Material where
  mention := IsReadMention .sequence p
  link := IsReadLink p
  member _ := False

theorem isReadFrom_material (p : Char → Prop) : (material p).IsReadFrom .sequence p :=
  ⟨fun _ hm => hm, fun _ hl => hl, fun _ hs => hs.elim⟩

section

variable {p : Char → Prop}

theorem step_mention (g : Graph) {id : List Char} (hid : IsWordRun id) (hchars : ∀ c ∈ id, p c)
    (label : Option (List Char)) (hlabel : ∀ l ∈ label, ∀ c ∈ l, p c) (shape : Option Shape) :
    Step (material p) g
      (g.mention { id := String.ofList id, label := label.map String.ofList, shape }) :=
  .mention g (isReadMention_ofList hid hchars hlabel shape)

/-- A message mentions both of its ends before it links them. -/
theorem steps_step (g : Graph) {st : Statement} (h : st.IsTidy) (hst : ∀ c ∈ st.text, p c) :
    Steps (material p) g (step g st) := by
  cases st with
  | participant id label actor =>
      rw [Statement.text, List.forall_mem_append] at hst
      refine .single (step_mention g h hst.1 (some label) (fun l hl => ?_) _)
      rw [← Option.some.inj hl]
      exact hst.2
  | message source target label dashed =>
      obtain ⟨hsource, htarget, hlabel⟩ := h
      rw [Statement.text, List.forall_mem_append, List.forall_mem_append] at hst
      obtain ⟨⟨hsourceChars, htargetChars⟩, hlabelChars⟩ := hst
      have hends :=
        (Relation.ReflTransGen.single
          (step_mention g hsource hsourceChars none (by simp) none)).tail
        (step_mention _ htarget htargetChars none (by simp) none)
      refine hends.tail (.link ⟨rfl, ?_, ?_⟩ ?_ ?_)
      · rwa [String.toList_ofList]
      · rwa [String.toList_ofList]
      · exact mem_nodeIds_mention.2 (.inl (mem_nodeIds_mention.2 (.inr rfl)))
      · exact mem_nodeIds_mention.2 (.inr rfl)

/-- A sequence diagram is read in steps, with the characters of its lines. -/
theorem steps_read {body : List (List Char)} (hbody : ∀ line ∈ body, ∀ c ∈ line, p c) :
    Steps (material p) .empty (read body) := by
  rw [read]
  refine List.foldlRecOn (motive := fun g => Steps (material p) .empty g) _ step .refl
    fun g h st hst => h.trans ?_
  obtain ⟨line, hline, hst⟩ := List.mem_filterMap.1 hst
  have hcut := isCutFrom_of_ofLine? hst
  exact steps_step g hcut.isTidy fun c hc => hbody line hline c (hcut.subset hc)

end

end DiagramBridge.Mermaid.Sequence
