import DiagramBridge.Drawio.Ordering
import DiagramBridge.Proofs.Number.Binary64
import Mathlib.Data.List.Nodup
import Mathlib.Data.List.Perm.Basic

/-!
# Putting items in order

No item is lost and none is added, whatever the numbers are. If all of them are numbers, the items
come in ascending order and those with equal numbers keep the order in which they came. If moreover
no two numbers are equal, the order in which the items came does not matter at all.
-/

namespace DiagramBridge.Drawio

variable {α : Type} {key : α → Binary64}

/-! ## Nothing is lost -/

theorem placeFor_le (item : α) (sorted : List α) {fuel low high : Nat} (h : low ≤ high) :
    placeFor key item sorted fuel low high ≤ high := by
  induction fuel generalizing low high with
  | zero => exact h
  | succ fuel ih =>
      rw [placeFor]
      split
      · dsimp only
        split
        · exact h
        · split
          · exact (ih (by omega)).trans (by omega)
          · exact ih (by omega)
      · exact h

theorem firstRun_perm (items : List α) :
    ((firstRun key items).1 ++ (firstRun key items).2).Perm items := by
  match items with
  | [] => exact List.Perm.nil
  | [a] => exact List.Perm.refl _
  | a :: b :: as =>
      rw [firstRun]
      split
      · refine ((List.reverse_perm _).append_right _).trans (List.Perm.of_eq ?_)
        exact List.take_append_drop ..
      · exact List.Perm.of_eq (List.take_append_drop ..)

theorem insertByHalving_perm (items : List α) : (insertByHalving key items).Perm items := by
  have hinsert : ∀ rest sorted : List α, (rest.foldl (fun sorted item =>
      sorted.insertIdx (placeFor key item sorted (sorted.length + 1) 0 sorted.length) item)
        sorted).Perm (sorted ++ rest) := by
    intro rest
    induction rest with
    | nil => exact fun sorted => List.Perm.of_eq (List.append_nil sorted).symm
    | cons item rest ih =>
        intro sorted
        have hplace : placeFor key item sorted (sorted.length + 1) 0 sorted.length ≤
            sorted.length := placeFor_le item sorted (Nat.zero_le _)
        rw [List.foldl_cons]
        refine (ih _).trans ?_
        exact ((List.perm_insertIdx item sorted hplace).append_right rest).trans
          List.perm_middle.symm
  exact (hinsert _ _).trans (firstRun_perm items)

/-- Putting items in order only rearranges them. -/
theorem sortByKey_perm (key : α → Binary64) (items : List α) : (sortByKey key items).Perm items := by
  rw [sortByKey]
  split
  · exact insertByHalving_perm items
  · exact List.mergeSort_perm ..

/-! ## Pairs of items in a row -/

theorem sublist_or_sublist {l : List α} {a b : α} (ha : a ∈ l) (hb : b ∈ l) (hne : a ≠ b) :
    [a, b].Sublist l ∨ [b, a].Sublist l := by
  obtain ⟨s, t, rfl⟩ := List.append_of_mem ha
  rcases List.mem_append.1 hb with hb | hb
  · right
    exact (List.singleton_sublist.2 hb).append (List.singleton_sublist.2 List.mem_cons_self)
  · left
    rcases List.mem_cons.1 hb with rfl | hb
    · exact absurd rfl hne
    · exact ((List.singleton_sublist.2 hb).cons_cons a).trans (List.sublist_append_right s _)

theorem not_sublist_swap {l : List α} (h : l.Nodup) {a b : α} (hab : [a, b].Sublist l) :
    ¬ [b, a].Sublist l := by
  intro hba
  induction l with
  | nil => exact absurd (List.sublist_nil.1 hab) (by simp)
  | cons c l ih =>
      obtain ⟨hc, hl⟩ := List.nodup_cons.1 h
      cases hab with
      | cons _ hab => cases hba with
        | cons _ hba => exact ih hl hab hba
        | cons_cons _ hba => exact hc (hab.subset (by simp))
      | cons_cons _ hab => cases hba with
        | cons _ hba => exact hc (hba.subset (by simp))
        | cons_cons _ hba => exact hc (hab.subset (by simp))

/-! ## The order -/

/-- Whether the place of the number of an item is not above that of another one. -/
def isNotAbove (key : α → Binary64) (a b : α) : Bool :=
  decide ((key a).place ≤ (key b).place)

theorem isNotAbove_iff {a b : α} : isNotAbove key a b = true ↔ (key a).place ≤ (key b).place :=
  decide_eq_true_iff

theorem isNotAbove_trans (a b c : α) (hab : isNotAbove key a b = true)
    (hbc : isNotAbove key b c = true) : isNotAbove key a c = true := by
  rw [isNotAbove_iff] at hab hbc ⊢
  exact hab.trans hbc

theorem isNotAbove_total (a b : α) : (isNotAbove key a b || isNotAbove key b a) = true := by
  rw [Bool.or_eq_true, isNotAbove_iff, isNotAbove_iff]
  exact le_total _ _

section Numbers

variable {items : List α} (hnumber : ∀ a ∈ items, (key a).isNaN = false)
include hnumber

theorem sortByKey_of_numbers :
    sortByKey key items = items.mergeSort fun a b => (key a).le (key b) := by
  have hany : items.any (fun a => (key a).isNaN) = false := by
    rw [List.any_eq_false]
    intro a ha
    rw [hnumber a ha]
    exact Bool.false_ne_true
  rw [sortByKey, hany]
  rfl

/-- What is in order stays as it is. -/
theorem sortByKey_of_pairwise (hsorted : items.Pairwise fun a b => (key a).le (key b) = true) :
    sortByKey key items = items := by
  rw [sortByKey_of_numbers hnumber]
  exact List.mergeSort_of_pairwise hsorted

/-- Among numbers the comparison that is made agrees with one that is transitive and total. -/
theorem sortByKey_eq_mergeSort : sortByKey key items = items.mergeSort (isNotAbove key) := by
  have hle : ∀ a ∈ items, ∀ b ∈ items, (key a).le (key b) = isNotAbove key (id a) (id b) := by
    intro a ha b hb
    rw [Bool.eq_iff_iff, Binary64.le_iff_place_le (hnumber a ha) (hnumber b hb), isNotAbove_iff]
    rfl
  have hsort := List.map_mergeSort hle
  rw [List.map_id, List.map_id] at hsort
  rw [sortByKey_of_numbers hnumber, hsort]

theorem pairwise_place_sortByKey :
    (sortByKey key items).Pairwise fun a b => (key a).place ≤ (key b).place := by
  rw [sortByKey_eq_mergeSort hnumber]
  exact (List.pairwise_mergeSort isNotAbove_trans isNotAbove_total items).imp isNotAbove_iff.1

/-- The items come in ascending order, and equal ones in the order in which they came. -/
theorem pairwise_sortByKey (hnodup : items.Nodup) :
    (sortByKey key items).Pairwise fun a b => (key a).lt (key b) = true ∨
      (key b).lt (key a) = false ∧ [a, b].Sublist items := by
  have hperm := sortByKey_perm key items
  have hnodup' := hperm.nodup_iff.2 hnodup
  have hsorted := pairwise_place_sortByKey hnumber
  rw [List.pairwise_iff_forall_sublist] at hsorted ⊢
  intro a b hab
  have ha : a ∈ items := hperm.mem_iff.1 (hab.subset (by simp))
  have hb : b ∈ items := hperm.mem_iff.1 (hab.subset (by simp))
  rcases (hsorted hab).lt_or_eq with hlt | heq
  · left
    rwa [Binary64.lt_iff_place_lt (hnumber a ha) (hnumber b hb)]
  · right
    constructor
    · rw [← Bool.not_eq_true, Binary64.lt_iff_place_lt (hnumber b hb) (hnumber a ha)]
      exact not_lt_of_ge heq.le
    · have hne : a ≠ b := by simpa using hnodup'.sublist hab
      -- The other order would have been kept, and a row has two items in one order only.
      refine (sublist_or_sublist ha hb hne).resolve_right fun hba => ?_
      have hkept := List.pair_sublist_mergeSort isNotAbove_trans isNotAbove_total
        (isNotAbove_iff.2 heq.ge) hba
      rw [← sortByKey_eq_mergeSort hnumber] at hkept
      exact not_sublist_swap hnodup' hab hkept

/-- Items with different numbers have one order only. -/
theorem sortByKey_eq_of_perm {items' : List α} (hperm : items.Perm items')
    (hdistinct : items.Pairwise fun a b => (key a).lt (key b) = true ∨ (key b).lt (key a) = true) :
    sortByKey key items = sortByKey key items' := by
  have hnumber' : ∀ a ∈ items', (key a).isNaN = false := fun a ha =>
    hnumber a (hperm.mem_iff.2 ha)
  have hsorts : (sortByKey key items).Perm (sortByKey key items') :=
    (sortByKey_perm key items).trans (hperm.trans (sortByKey_perm key items').symm)
  refine List.Perm.eq_of_pairwise ?_ (pairwise_place_sortByKey hnumber)
    (pairwise_place_sortByKey hnumber') hsorts
  intro a b ha hb hab hba
  have ha : a ∈ items := (sortByKey_perm key items).mem_iff.1 ha
  have hb : b ∈ items := hperm.mem_iff.2 ((sortByKey_perm key items').mem_iff.1 hb)
  by_contra hne
  rw [List.pairwise_iff_forall_sublist] at hdistinct
  have hpair : (key a).lt (key b) = true ∨ (key b).lt (key a) = true :=
    (sublist_or_sublist ha hb hne).elim (fun h => hdistinct h) fun h => (hdistinct h).symm
  rcases hpair with h | h
  · rw [Binary64.lt_iff_place_lt (hnumber a ha) (hnumber b hb)] at h
    exact absurd hba (not_le_of_gt h)
  · rw [Binary64.lt_iff_place_lt (hnumber b hb) (hnumber a ha)] at h
    exact absurd hab (not_le_of_gt h)

end Numbers

end DiagramBridge.Drawio
