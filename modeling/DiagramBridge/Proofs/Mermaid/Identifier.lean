import DiagramBridge.Mermaid.Identifier
import DiagramBridge.Proofs.Text.Fresh
import DiagramBridge.Proofs.Text.Search

/-!
# Identifiers are words of their own

The ids that nodes get in Mermaid are words, they are pairwise distinct, and none of them is a word
that opens a statement about looks. A node whose id is such a word already keeps it.
-/

namespace DiagramBridge.Mermaid

open Text

/-! ## One identifier -/

theorem isWord_of_mem_wordChars {id : List Char} {c : Char} (h : c ∈ wordChars id) :
    isWord c = true :=
  (List.mem_filter.1 h).2

theorem mem_avoidDigit {s : List Char} {c : Char} (h : c ∈ avoidDigit s) :
    c ∈ s ∨ isWord c = true := by
  rw [avoidDigit.eq_def] at h
  split at h
  · split at h
    · have hall : ∀ c ∈ "n_".toList, isWord c = true := by decide
      exact (List.mem_append.1 h).symm.imp_right (hall c)
    · exact Or.inl h
  · exact Or.inl h

theorem avoidDigit_ne_nil {s : List Char} (h : s ≠ []) : avoidDigit s ≠ [] := by
  obtain ⟨c, r, rfl⟩ := List.exists_cons_of_ne_nil h
  rw [avoidDigit]
  split
  · exact List.append_ne_nil_of_right_ne_nil _ h
  · exact h

theorem mem_avoidReserved {s : List Char} {c : Char} (h : c ∈ avoidReserved s) :
    c ∈ s ∨ isWord c = true := by
  rw [avoidReserved] at h
  split at h
  · have hall : ∀ c ∈ "_node".toList, isWord c = true := by decide
    exact (List.mem_append.1 h).imp_right (hall c)
  · exact Or.inl h

theorem avoidReserved_ne_nil {s : List Char} (h : s ≠ []) : avoidReserved s ≠ [] := by
  rw [avoidReserved]
  split
  · exact List.append_ne_nil_of_left_ne_nil h _
  · exact h

/-- What avoids the keywords is none, or it has an underscore. -/
theorem avoidReserved_cases (s : List Char) :
    String.ofList (lower (avoidReserved s)) ∉ reservedWords ∨ '_' ∈ avoidReserved s := by
  rw [avoidReserved]
  split
  · exact Or.inr (List.mem_append_right _ (by decide))
  · next h =>
    exact Or.inl (by simpa using h)

theorem isWord_of_mem_safeId {id : String} {c : Char} (h : c ∈ (safeId id).toList) :
    isWord c = true := by
  rw [safeId] at h
  split at h
  · have hall : ∀ c ∈ "node".toList, isWord c = true := by decide
    exact hall c h
  · next d s heq =>
    rw [String.toList_ofList] at h
    rcases mem_avoidReserved h with h | h
    · rcases mem_avoidDigit h with h | h
      · rw [← heq] at h
        exact isWord_of_mem_wordChars h
      · exact h
    · exact h

theorem stops_avoidDigit (s : List Char) : Stops isDigit (avoidDigit s) := by
  cases s with
  | nil => exact stops_nil _
  | cons c s =>
      rw [avoidDigit]
      split
      · exact stops_cons_iff.2 (by decide)
      · next hc =>
        rw [stops_cons_iff]
        simpa using hc

/-- No Mermaid id begins with a digit. -/
theorem stops_safeId (id : String) : Stops isDigit (safeId id).toList := by
  rw [safeId]
  split
  · decide
  · next c s _ =>
    have hdigit : Stops isDigit (avoidDigit (c :: s)) := stops_avoidDigit (c :: s)
    rw [String.toList_ofList, avoidReserved]
    split
    · exact hdigit.append (avoidDigit_ne_nil (List.cons_ne_nil _ _))
    · exact hdigit

theorem safeId_ne_empty (id : String) : safeId id ≠ "" := by
  rw [safeId]
  split
  · decide
  · intro h
    have hnil := congrArg String.toList h
    rw [String.toList_ofList] at hnil
    exact avoidReserved_ne_nil (avoidDigit_ne_nil (List.cons_ne_nil _ _)) hnil

/-- Words that open a statement about looks and are spelled without an underscore. -/
def statementWords : List String := ["style", "classDef", "class", "click"]

theorem safeId_not_mem_statementWords (id : String) : safeId id ∉ statementWords := by
  have hreserved : ∀ w ∈ statementWords, String.ofList (lower w.toList) ∈ reservedWords := by
    decide
  have hplain : ∀ w ∈ statementWords, '_' ∉ w.toList := by decide
  rw [safeId]
  split
  · decide
  · next c s _ =>
    intro h
    rcases avoidReserved_cases (avoidDigit (c :: s)) with hcase | hcase
    · have hmem := hreserved _ h
      rw [String.toList_ofList] at hmem
      exact hcase hmem
    · have hmem := hplain _ h
      rw [String.toList_ofList] at hmem
      exact hmem hcase

/-! ## The identifiers of all nodes -/

/-- The identifier that a node gets when some are in use. -/
def newId (used : List String) (id : String) : String :=
  numberedName used (safeId id)

theorem newId_not_mem (used : List String) (id : String) : newId used id ∉ used :=
  numberedName_not_mem used _

theorem isWord_of_mem_newId {used : List String} {id : String} {c : Char}
    (h : c ∈ (newId used id).toList) : isWord c = true := by
  obtain ⟨s, heq, hs⟩ := numberedName_eq_append used (safeId id)
  rw [newId, heq, String.toList_append, List.mem_append] at h
  exact h.elim isWord_of_mem_safeId (hs c)

theorem newId_ne_empty (used : List String) (id : String) : newId used id ≠ "" := by
  obtain ⟨s, heq, -⟩ := numberedName_eq_append used (safeId id)
  rw [newId, heq]
  exact append_ne_empty (safeId_ne_empty id) s

theorem newId_not_mem_statementWords (used : List String) (id : String) :
    newId used id ∉ statementWords := by
  have hplain : ∀ w ∈ statementWords, '_' ∉ w.toList := by decide
  rcases numberedName_eq_or used (safeId id) with h | h
  · rw [newId, h]
    exact safeId_not_mem_statementWords id
  · exact fun hmem => hplain _ hmem h

theorem assignIds_eq (used ids : List String) : assignIds used ids = assignNames newId used ids := by
  induction ids generalizing used with
  | nil => rfl
  | cons id ids ih => rw [assignIds, assignNames, ih, newId]

/-- The Mermaid id of a node of a graph. -/
def idOf (g : Graph) (id : String) : String :=
  lookupId (idMap g) id

theorem idOf_eq (g : Graph) (id : String) :
    idOf g id = lookupName (assignNames newId [] g.nodeIds) id := by
  rw [idOf, idMap, assignIds_eq]
  rfl

section

variable {g : Graph} {id : String} (h : id ∈ g.nodeIds)
include h

theorem exists_idOf_eq : ∃ used, idOf g id = newId used id := by
  rw [idOf_eq]
  exact exists_lookupName_eq g.nodup newId [] h

theorem isWord_of_mem_idOf {c : Char} (hc : c ∈ (idOf g id).toList) : isWord c = true := by
  obtain ⟨used, heq⟩ := exists_idOf_eq h
  rw [heq] at hc
  exact isWord_of_mem_newId hc

theorem idOf_ne_empty : idOf g id ≠ "" := by
  obtain ⟨used, heq⟩ := exists_idOf_eq h
  rw [heq]
  exact newId_ne_empty used id

theorem idOf_toList_ne_nil : (idOf g id).toList ≠ [] := by
  simpa using idOf_ne_empty h

theorem idOf_not_mem_statementWords : idOf g id ∉ statementWords := by
  obtain ⟨used, heq⟩ := exists_idOf_eq h
  rw [heq]
  exact newId_not_mem_statementWords used id

/-- Where every id is safe already, nodes keep their ids. -/
theorem idOf_of_safe (hsafe : ∀ id ∈ g.nodeIds, safeId id = id) : idOf g id = id := by
  rw [idOf_eq]
  refine lookupName_of_fixed g.nodup (by simp) (fun i hi used hused => ?_) h
  rw [newId, hsafe i hi, numberedName_of_not_mem hused]

end

theorem nodup_map_idOf (g : Graph) : (g.nodes.map fun n => idOf g n.id).Nodup := by
  have hnodup : (g.nodeIds.map (lookupName (assignNames newId [] g.nodeIds))).Nodup :=
    nodup_map_lookupName g.nodup newId_not_mem
  rw [Graph.nodeIds, List.map_map] at hnodup
  rwa [List.map_congr_left fun n _ => idOf_eq g n.id]

end DiagramBridge.Mermaid
