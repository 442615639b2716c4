import DiagramBridge.Proofs.Number.Digits
import DiagramBridge.Proofs.Text.Search
import DiagramBridge.Text.Fresh
import Mathlib.Data.List.Nodup
import Mathlib.Data.List.Perm.Subperm

/-!
# New names are new

Among one more number than there are names in use, one has a name that is not in use, as long as
different numbers have different names. The bounded search therefore never runs out, and the name
that it finds is free. A new name is the wanted one with word characters behind it.

Names are given to a list of ids one after the other, and whoever gives a name knows the names given
before. When every name is new among those, the names are pairwise distinct, and looking up an id
finds the name that was given to it. An id whose own name is always at hand keeps it.
-/

namespace DiagramBridge.Text

/-- The search stops at a free name whenever there is one in its reach. -/
theorem firstFree_spec {taken : String → Bool} {name : Nat → String} {fuel k j : Nat}
    (hle : k ≤ j) (hlt : j ≤ k + fuel) (hfree : taken (name j) = false) :
    taken (name (firstFree taken name fuel k)) = false := by
  induction fuel generalizing k with
  | zero =>
      have : j = k := by omega
      rw [firstFree, ← this]
      exact hfree
  | succ fuel ih =>
      rw [firstFree]
      split
      · next htaken =>
        have hne : k ≠ j := by
          rintro rfl
          rw [hfree] at htaken
          exact absurd htaken (by simp)
        exact ih (by omega) (by omega)
      · next hfree =>
        simpa using hfree

theorem le_firstFree (taken : String → Bool) (name : Nat → String) (fuel k : Nat) :
    k ≤ firstFree taken name fuel k := by
  induction fuel generalizing k with
  | zero => exact Nat.le_refl k
  | succ fuel ih =>
      rw [firstFree]
      split
      · exact Nat.le_of_succ_le (ih (k + 1))
      · exact Nat.le_refl k

/-- The search passes over names that are taken, and over no other. -/
theorem taken_of_lt_firstFree {taken : String → Bool} {name : Nat → String} {fuel k j : Nat}
    (hle : k ≤ j) (hlt : j < firstFree taken name fuel k) : taken (name j) = true := by
  induction fuel generalizing k with
  | zero =>
      rw [firstFree] at hlt
      omega
  | succ fuel ih =>
      rw [firstFree] at hlt
      split at hlt
      · next htaken =>
        rcases Nat.eq_or_lt_of_le hle with rfl | hlt'
        · exact htaken
        · exact ih hlt' hlt
      · omega

/-- Of more names than are in use, one is free. -/
theorem exists_not_mem {name : Nat → String} (hinj : Function.Injective name)
    (used : List String) (k : Nat) : ∃ j, k ≤ j ∧ j ≤ k + used.length ∧ name j ∉ used := by
  by_contra hall
  push Not at hall
  have hnodup : ((List.range' k (used.length + 1)).map name).Nodup :=
    (List.nodup_range' 1).map hinj
  have hsub : (List.range' k (used.length + 1)).map name ⊆ used := by
    intro s hs
    obtain ⟨j, hj, rfl⟩ := List.mem_map.1 hs
    rw [List.mem_range'_1] at hj
    exact hall j hj.1 (by omega)
  have hlength := (hnodup.subperm hsub).length_le
  rw [List.length_map, List.length_range'] at hlength
  omega

theorem firstFree_not_mem (name : Nat → String) (hinj : Function.Injective name)
    (used : List String) (k : Nat) :
    name (firstFree used.contains name used.length k) ∉ used := by
  obtain ⟨j, hle, hlt, hfree⟩ := exists_not_mem hinj used k
  have h : used.contains (name (firstFree used.contains name used.length k)) = false :=
    firstFree_spec hle hlt (by simpa using hfree)
  simpa using h

theorem append_left_cancel {s t u : String} (h : s ++ t = s ++ u) : t = u := by
  have h := congrArg String.toList h
  rw [String.toList_append, String.toList_append] at h
  exact String.toList_injective (List.append_cancel_left h)

theorem append_ne_empty {s : String} (h : s ≠ "") (t : String) : s ++ t ≠ "" := by
  intro heq
  have h' := congrArg String.toList heq
  rw [String.toList_append, String.toList_empty, List.append_eq_nil_iff] at h'
  exact h (String.toList_inj.1 h'.1)

/-! ## Numbers behind a name -/

theorem numberedName_of_not_mem {used : List String} {base : String} (h : base ∉ used) :
    numberedName used base = base := by
  rw [numberedName, if_neg (by simpa using h)]

theorem numberedName_not_mem (used : List String) (base : String) :
    numberedName used base ∉ used := by
  rw [numberedName]
  split
  · refine firstFree_not_mem (fun n => base ++ "_" ++ decimalString n) ?_ used 1
    intro m n h
    exact decimalString_injective (append_left_cancel h)
  · next h =>
    simpa using h

/-- The names that are tried for a base, in order: `base`, `base_1`, `base_2`, … -/
def candidate (base : String) : Nat → String
  | 0 => base
  | n + 1 => base ++ "_" ++ decimalString (n + 1)

theorem candidate_of_pos (base : String) {n : Nat} (hn : 1 ≤ n) :
    candidate base n = base ++ "_" ++ decimalString n := by
  obtain ⟨m, rfl⟩ := Nat.exists_eq_add_of_le' hn
  rfl

/-- All names that are tried before the new one are in use. -/
theorem exists_numberedName_eq (used : List String) (base : String) :
    ∃ n, numberedName used base = candidate base n ∧ ∀ m < n, candidate base m ∈ used := by
  let name := fun n => base ++ "_" ++ decimalString n
  by_cases hused : base ∈ used
  · let n := firstFree used.contains name used.length 1
    have hpos : 1 ≤ n := le_firstFree used.contains name used.length 1
    refine ⟨n, ?_, fun m hm => ?_⟩
    · rw [numberedName, if_pos (by simpa using hused), candidate_of_pos base hpos]
    · rcases Nat.eq_zero_or_pos m with rfl | hm'
      · exact hused
      · have htaken : used.contains (name m) = true := taken_of_lt_firstFree hm' hm
        rw [candidate_of_pos base hm']
        simpa using htaken
  · exact ⟨0, numberedName_of_not_mem hused, fun m hm => absurd hm (Nat.not_lt_zero m)⟩

/-- A new name is the wanted one with word characters behind it. -/
theorem numberedName_eq_append (used : List String) (base : String) :
    ∃ s : String, numberedName used base = base ++ s ∧ ∀ c ∈ s.toList, isWord c = true := by
  rw [numberedName]
  split
  · refine ⟨"_" ++ decimalString (firstFree used.contains
      (fun n => base ++ "_" ++ decimalString n) used.length 1), String.append_assoc .., ?_⟩
    intro c hc
    rw [String.toList_append, List.mem_append, toList_decimalString] at hc
    rcases hc with hc | hc
    · rw [List.mem_singleton.1 hc]
      decide
    · exact isWord_of_mem_decimal hc
  · exact ⟨"", by simp, by simp⟩

/-- A new name is the wanted one or has an underscore. -/
theorem numberedName_eq_or (used : List String) (base : String) :
    numberedName used base = base ∨ '_' ∈ (numberedName used base).toList := by
  rw [numberedName]
  split
  · refine Or.inr ?_
    rw [String.toList_append, String.toList_append, List.mem_append, List.mem_append]
    exact Or.inl (Or.inr (by decide))
  · exact Or.inl rfl

/-! ## Underscores behind a name -/

theorem lengthenedName_not_mem (used : List String) (base : String) :
    lengthenedName used base ∉ used := by
  rw [lengthenedName]
  refine firstFree_not_mem (fun n => base ++ String.ofList (List.replicate n '_')) ?_ used 0
  intro m n h
  have hlength := congrArg List.length (String.ofList_injective (append_left_cancel h))
  simpa using hlength

theorem lengthenedName_eq_append (used : List String) (base : String) :
    ∃ s : String, lengthenedName used base = base ++ s ∧ ∀ c ∈ s.toList, isWord c = true := by
  refine ⟨_, rfl, fun c hc => ?_⟩
  rw [String.toList_ofList] at hc
  rw [(List.mem_replicate.1 hc).2]
  decide

/-! ## Names for many -/


/-- Names given one after the other, each with a view of those in use. -/
def assignNames (name : List String → String → String) (used : List String) :
    List String → List (String × String)
  | [] => []
  | id :: ids => (id, name used id) :: assignNames name (name used id :: used) ids

/-- The name that an id was given; an id without a name is kept. -/
def lookupName (names : List (String × String)) (id : String) : String :=
  (names.lookup id).getD id

variable {name : List String → String → String} {used ids : List String}

theorem map_fst_assignNames (name : List String → String → String) (used ids : List String) :
    (assignNames name used ids).map Prod.fst = ids := by
  induction ids generalizing used with
  | nil => rfl
  | cons id ids ih => rw [assignNames, List.map_cons, ih]

/-- Every name was given in view of some names in use. -/
theorem exists_of_mem_assignNames {p : String × String} (h : p ∈ assignNames name used ids) :
    ∃ used', p.2 = name used' p.1 := by
  induction ids generalizing used with
  | nil => exact absurd h (by simp [assignNames])
  | cons id ids ih =>
      rw [assignNames, List.mem_cons] at h
      rcases h with rfl | h
      · exact ⟨used, rfl⟩
      · exact ih h

/-- Every name is given in view of those that were given before it. -/
theorem snd_eq_of_assignNames_eq {front back : List (String × String)} {p : String × String}
    (h : assignNames name used ids = front ++ p :: back) :
    p.2 = name ((front.map Prod.snd).reverse ++ used) p.1 := by
  induction front generalizing used ids with
  | nil =>
      cases ids with
      | nil => exact absurd h (List.cons_ne_nil _ _).symm
      | cons id ids =>
          rw [assignNames, List.nil_append] at h
          rw [← (List.cons.inj h).1]
          rfl
  | cons q front ih =>
      cases ids with
      | nil => exact absurd h (List.cons_ne_nil _ _).symm
      | cons id ids =>
          rw [assignNames, List.cons_append] at h
          obtain ⟨rfl, htail⟩ := List.cons.inj h
          rw [ih htail, List.map_cons, List.reverse_cons, List.append_assoc]
          rfl

theorem snd_not_mem_of_mem_assignNames (hnew : ∀ used id, name used id ∉ used)
    {p : String × String} (h : p ∈ assignNames name used ids) : p.2 ∉ used := by
  induction ids generalizing used with
  | nil => exact absurd h (by simp [assignNames])
  | cons id ids ih =>
      rw [assignNames, List.mem_cons] at h
      rcases h with rfl | h
      · exact hnew used id
      · exact fun hused => ih h (List.mem_cons_of_mem _ hused)

theorem nodup_snd_assignNames (hnew : ∀ used id, name used id ∉ used) (used ids : List String) :
    ((assignNames name used ids).map Prod.snd).Nodup := by
  induction ids generalizing used with
  | nil => exact List.nodup_nil
  | cons id ids ih =>
      rw [assignNames, List.map_cons, List.nodup_cons]
      refine ⟨fun hmem => ?_, ih _⟩
      obtain ⟨p, hp, heq⟩ := List.mem_map.1 hmem
      exact snd_not_mem_of_mem_assignNames hnew hp (by simp [heq])

/-- Ids that keep their own name as long as it is free all keep it. -/
theorem assignNames_of_fixed (hnodup : ids.Nodup) (hfree : ∀ id ∈ ids, id ∉ used)
    (hfixed : ∀ id ∈ ids, ∀ used, id ∉ used → name used id = id) :
    assignNames name used ids = ids.map fun id => (id, id) := by
  induction ids generalizing used with
  | nil => rfl
  | cons id ids ih =>
      obtain ⟨hid, hids⟩ := List.nodup_cons.1 hnodup
      have hhead := hfixed id (by simp) used (hfree id (by simp))
      rw [assignNames, hhead, List.map_cons,
        ih hids (fun i hi => ?_) fun i hi => hfixed i (by simp [hi])]
      rw [List.mem_cons, not_or]
      exact ⟨fun heq => hid (heq ▸ hi), hfree i (by simp [hi])⟩

/-! ## Looking names up -/

theorem lookup_of_mem {α : Type} {l : List (String × α)} (hnodup : (l.map Prod.fst).Nodup)
    {p : String × α} (h : p ∈ l) : l.lookup p.1 = some p.2 := by
  induction l with
  | nil => exact absurd h (by simp)
  | cons q l ih =>
      obtain ⟨hq, hl⟩ := List.nodup_cons.1 hnodup
      rcases List.mem_cons.1 h with rfl | h
      · rw [List.lookup_cons, beq_self_eq_true]
      · have hne : p.1 ≠ q.1 := fun heq => hq (heq ▸ List.mem_map_of_mem h)
        rw [List.lookup_cons, beq_eq_false_iff_ne.2 hne]
        exact ih hl h

theorem lookup_eq_some_iff_mem {α : Type} {l : List (String × α)}
    (hnodup : (l.map Prod.fst).Nodup) {k : String} {v : α} :
    l.lookup k = some v ↔ (k, v) ∈ l := by
  refine ⟨fun h => ?_, fun h => lookup_of_mem hnodup h⟩
  obtain ⟨front, back, rfl, -⟩ := List.lookup_eq_some_iff.1 h
  simp

/-- Where no key comes twice, the order of the entries does not matter. -/
theorem lookup_eq_of_perm {α : Type} {l l' : List (String × α)} (hperm : l.Perm l')
    (hnodup : (l.map Prod.fst).Nodup) (k : String) : l.lookup k = l'.lookup k := by
  ext v
  rw [lookup_eq_some_iff_mem hnodup,
    lookup_eq_some_iff_mem ((hperm.map Prod.fst).nodup_iff.1 hnodup), hperm.mem_iff]

section Lookup

variable (hnodup : ids.Nodup)
include hnodup

theorem lookupName_of_mem {p : String × String} (h : p ∈ assignNames name used ids) :
    lookupName (assignNames name used ids) p.1 = p.2 := by
  rw [lookupName, lookup_of_mem (by rwa [map_fst_assignNames]) h]
  rfl

theorem mem_assignNames {id : String} (h : id ∈ ids) :
    (id, lookupName (assignNames name used ids) id) ∈ assignNames name used ids := by
  have hmem : id ∈ (assignNames name used ids).map Prod.fst := by rwa [map_fst_assignNames]
  obtain ⟨p, hp, rfl⟩ := List.mem_map.1 hmem
  rw [lookupName_of_mem hnodup hp]
  exact hp

theorem map_lookupName : ids.map (lookupName (assignNames name used ids)) =
    (assignNames name used ids).map Prod.snd := by
  calc ids.map (lookupName (assignNames name used ids))
      = ((assignNames name used ids).map Prod.fst).map (lookupName (assignNames name used ids)) := by
        rw [map_fst_assignNames]
    _ = (assignNames name used ids).map Prod.snd := by
        rw [List.map_map]
        exact List.map_congr_left fun p hp => lookupName_of_mem hnodup hp

theorem nodup_map_lookupName (hnew : ∀ used id, name used id ∉ used) :
    (ids.map (lookupName (assignNames name used ids))).Nodup := by
  rw [map_lookupName hnodup]
  exact nodup_snd_assignNames hnew used ids

theorem lookupName_not_mem (hnew : ∀ used id, name used id ∉ used) {id : String} (h : id ∈ ids) :
    lookupName (assignNames name used ids) id ∉ used :=
  snd_not_mem_of_mem_assignNames hnew (mem_assignNames hnodup h)

/-- What is looked up was given. -/
theorem exists_lookupName_eq (name : List String → String → String) (used : List String)
    {id : String} (h : id ∈ ids) :
    ∃ used', lookupName (assignNames name used ids) id = name used' id :=
  exists_of_mem_assignNames (mem_assignNames hnodup h)

theorem lookupName_of_fixed (hfree : ∀ id ∈ ids, id ∉ used)
    (hfixed : ∀ id ∈ ids, ∀ used, id ∉ used → name used id = id) {id : String} (h : id ∈ ids) :
    lookupName (assignNames name used ids) id = id := by
  have hmem : (id, lookupName (assignNames name used ids) id) ∈ assignNames name used ids :=
    mem_assignNames hnodup h
  rw [assignNames_of_fixed hnodup hfree hfixed] at hmem ⊢
  obtain ⟨i, -, heq⟩ := List.mem_map.1 hmem
  exact (congrArg Prod.snd heq).symm.trans (congrArg Prod.fst heq)

end Lookup

end DiagramBridge.Text
