import DiagramBridge.Proofs.Mermaid.Identifier
import DiagramBridge.Proofs.Text.Blank
import DiagramBridge.Proofs.Text.Case

/-!
# The map of identifiers

Safe ids are those that Mermaid takes as they are. Whatever the ids of a graph, their map gives each
of them a safe one, no two the same, and changes none if they are safe already.

A base and a number behind it make a safe id because of the underscore between the two: no keyword
has one, in no letter case. The names that are tried for a node stop at the first that no earlier
node was given.
-/

namespace DiagramBridge.Mermaid

open Text

/-! ## Safe identifiers -/

/-- A word that begins with no digit and is no keyword, in no letter case. -/
structure IsSafeId (id : String) : Prop where
  ne_empty : id ≠ ""
  word : ∀ c ∈ id.toList, isWord c = true
  start : Stops isDigit id.toList
  unreserved : String.ofList (lower id.toList) ∉ reservedWords

theorem unreserved_of_underscore {s : List Char} (h : '_' ∈ s) :
    String.ofList (lower s) ∉ reservedWords := by
  have hplain : ∀ w ∈ reservedWords, '_' ∉ w.toList := by decide
  intro hmem
  apply hplain _ hmem
  rw [String.toList_ofList]
  exact underscore_mem_lower h

theorem unreserved_safeId (id : String) :
    String.ofList (lower (safeId id).toList) ∉ reservedWords := by
  rw [safeId]
  split
  · decide +kernel
  · next c s _ =>
    rw [String.toList_ofList]
    rcases avoidReserved_cases (avoidDigit (c :: s)) with h | h
    · exact h
    · exact unreserved_of_underscore h

theorem isSafeId_newId (used : List String) (id : String) : IsSafeId (newId used id) where
  ne_empty := newId_ne_empty used id
  word := fun _ => isWord_of_mem_newId
  start := by
    obtain ⟨s, heq, -⟩ := numberedName_eq_append used (safeId id)
    have hne : (safeId id).toList ≠ [] := by simpa using safeId_ne_empty id
    rw [newId, heq, String.toList_append]
    exact (stops_safeId id).append hne
  unreserved := by
    rcases numberedName_eq_or used (safeId id) with h | h
    · rw [newId, h]
      exact unreserved_safeId id
    · exact unreserved_of_underscore h

/-! ## Safe identifiers are kept -/

theorem bridgeBlanks_of_forall {s : List Char} (h : ∀ c ∈ s, isBlank c = false) :
    bridgeBlanks s = s := by
  induction s with
  | nil => rfl
  | cons c s ih =>
      have hc : (!isBlank c) = true := by rw [h c (by simp), Bool.not_false]
      rw [bridgeBlanks.eq_def]
      dsimp only
      rw [if_pos hc, ih fun d hd => h d (by simp [hd])]

theorem wordChars_of_word {s : List Char} (h : ∀ c ∈ s, isWord c = true) : wordChars s = s := by
  have hblank : ∀ c ∈ s, isBlank c = false := fun c hc => isBlank_of_isWord (h c hc)
  rw [wordChars, trim_of_isTrimmed (isTrimmed_of_forall hblank), bridgeBlanks_of_forall hblank,
    List.filter_eq_self.2 h]

theorem avoidDigit_of_stops {s : List Char} (h : Stops isDigit s) : avoidDigit s = s := by
  cases s with
  | nil => rfl
  | cons c s => rw [avoidDigit, stops_cons_iff.1 h, if_neg Bool.false_ne_true]

theorem IsSafeId.safeId_eq {id : String} (h : IsSafeId id) : safeId id = id := by
  have hreserved : avoidReserved id.toList = id.toList := by
    rw [avoidReserved, if_neg (by simpa using h.unreserved)]
  rw [safeId, wordChars_of_word h.word]
  split
  · next hnil => exact absurd (String.toList_eq_nil_iff.1 hnil) h.ne_empty
  · next c s hcons =>
    rw [← hcons, avoidDigit_of_stops h.start, hreserved, String.ofList_toList]

/-! ## The map -/

theorem isSafeId_of_mem_idMap {g : Graph} {p : String × String} (hp : p ∈ idMap g) :
    IsSafeId p.2 := by
  rw [idMap, assignIds_eq] at hp
  obtain ⟨used, heq⟩ := exists_of_mem_assignNames hp
  rw [heq]
  exact isSafeId_newId used p.1

theorem idMap_of_isSafeId {g : Graph} (h : ∀ id ∈ g.nodeIds, IsSafeId id) :
    idMap g = g.nodeIds.map fun id => (id, id) := by
  rw [idMap, assignIds_eq]
  refine assignNames_of_fixed g.nodup (fun _ _ => List.not_mem_nil) fun id hid used hfree => ?_
  rw [newId, (h id hid).safeId_eq, numberedName_of_not_mem hfree]

/-- The names that are tried for a node, up to the first that is free. -/
theorem exists_candidate_of_idMap_eq {g : Graph} {front back : List (String × String)}
    {p : String × String} (h : idMap g = front ++ p :: back) :
    ∃ n, p.2 = candidate (safeId p.1) n ∧ p.2 ∉ front.map Prod.snd ∧
      ∀ m < n, candidate (safeId p.1) m ∈ front.map Prod.snd := by
  rw [idMap, assignIds_eq] at h
  have heq : p.2 = newId (front.map Prod.snd).reverse p.1 := by
    rw [snd_eq_of_assignNames_eq h, List.append_nil]
  obtain ⟨n, hn, hbefore⟩ := exists_numberedName_eq (front.map Prod.snd).reverse (safeId p.1)
  refine ⟨n, heq.trans hn, fun hmem => ?_, fun m hm => List.mem_reverse.1 (hbefore m hm)⟩
  apply newId_not_mem (front.map Prod.snd).reverse p.1
  rwa [← heq, List.mem_reverse]

/-- The map gives the ids of the nodes, and no others, safe ids that are pairwise distinct: to each
the first name that was not given before. It leaves all ids alone just when they are safe. -/
theorem idMap_isSafe (g : Graph) :
    (idMap g).map Prod.fst = g.nodeIds ∧
      ((idMap g).map Prod.snd).Nodup ∧
      (∀ p ∈ idMap g, IsSafeId p.2) ∧
      (∀ front p back, idMap g = front ++ p :: back →
        ∃ n, p.2 = candidate (safeId p.1) n ∧ p.2 ∉ front.map Prod.snd ∧
          ∀ m < n, candidate (safeId p.1) m ∈ front.map Prod.snd) ∧
      ((idMap g = g.nodeIds.map fun id => (id, id)) ↔ ∀ id ∈ g.nodeIds, IsSafeId id) := by
  have hkeys : (idMap g).map Prod.fst = g.nodeIds := by
    rw [idMap, assignIds_eq, map_fst_assignNames]
  have hdistinct : ((idMap g).map Prod.snd).Nodup := by
    rw [idMap, assignIds_eq]
    exact nodup_snd_assignNames newId_not_mem [] g.nodeIds
  refine ⟨hkeys, hdistinct, fun p hp => isSafeId_of_mem_idMap hp,
    fun front p back h => exists_candidate_of_idMap_eq h, fun hself id hid => ?_, idMap_of_isSafeId⟩
  have hmem : (id, id) ∈ idMap g := by
    rw [hself]
    exact List.mem_map_of_mem hid
  exact isSafeId_of_mem_idMap hmem

-- The third id is the second candidate of the first two, so it has to be numbered once more.
example : assignIds [] ["a-b", "ab", "ab_1", "42", "End"] =
    [("a-b", "ab"), ("ab", "ab_1"), ("ab_1", "ab_1_1"), ("42", "n_42"), ("End", "End_node")] := by
  decide +kernel

end DiagramBridge.Mermaid
