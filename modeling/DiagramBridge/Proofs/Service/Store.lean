import DiagramBridge.Service.Store
import Mathlib.Tactic.Common

/-!
# Parts of a store

A store is looked at through `get?`, which says what each operation does to each id, and through
`restrict`, which takes out the part of the store that belongs to some ids. An operation on one id
is an operation on the part that the id belongs to, and it leaves every other part alone.
-/

namespace DiagramBridge.Service

variable {p : String → Bool} {id other : String}

theorem lookup_cons_eq_ite (id : String) (entry : String × Session)
    (entries : List (String × Session)) :
    (entry :: entries).lookup id = if entry.1 = id then some entry.2 else entries.lookup id := by
  rw [List.lookup_cons]
  by_cases h : entry.1 = id
  · rw [if_pos h, h, beq_self_eq_true]
  · rw [if_neg h, beq_false_of_ne (Ne.symm h)]

theorem lookup_putEntry_self (id : String) (session : Session) (entries : List (String × Session)) :
    (putEntry id session entries).lookup id = some session := by
  induction entries with
  | nil => rw [putEntry, lookup_cons_eq_ite, if_pos rfl]
  | cons entry entries ih =>
      rw [putEntry]
      split_ifs with h
      · rw [lookup_cons_eq_ite, if_pos rfl]
      · rw [lookup_cons_eq_ite, if_neg h, ih]

theorem lookup_putEntry_of_ne (h : id ≠ other) (session : Session)
    (entries : List (String × Session)) :
    (putEntry id session entries).lookup other = entries.lookup other := by
  induction entries with
  | nil => rw [putEntry, lookup_cons_eq_ite, if_neg h]
  | cons entry entries ih =>
      rw [putEntry]
      split_ifs with hentry
      · rw [lookup_cons_eq_ite, lookup_cons_eq_ite, if_neg h, hentry, if_neg h]
      · rw [lookup_cons_eq_ite, lookup_cons_eq_ite, ih]

theorem putEntry_of_lookup {session : Session} {entries : List (String × Session)}
    (h : entries.lookup id = some session) : putEntry id session entries = entries := by
  induction entries with
  | nil => simp at h
  | cons entry entries ih =>
      rw [lookup_cons_eq_ite] at h
      rw [putEntry]
      split_ifs at h ⊢ with hentry
      · rw [← hentry, ← Option.some.inj h]
      · rw [ih h]

theorem filter_putEntry_of_pos (h : p id = true) (session : Session)
    (entries : List (String × Session)) :
    (putEntry id session entries).filter (p ·.1) =
      putEntry id session (entries.filter (p ·.1)) := by
  induction entries with
  | nil =>
      rw [putEntry, List.filter_cons_of_pos (by exact h)]
      rfl
  | cons entry entries ih =>
      rw [putEntry]
      split_ifs with hentry
      · rw [List.filter_cons_of_pos (by exact h), List.filter_cons_of_pos (by rwa [hentry]),
          putEntry, if_pos hentry]
      · rw [List.filter_cons, List.filter_cons, ih]
        split_ifs
        · rw [putEntry, if_neg hentry]
        · rfl

theorem filter_putEntry_of_neg (h : p id = false) (session : Session)
    (entries : List (String × Session)) :
    (putEntry id session entries).filter (p ·.1) = entries.filter (p ·.1) := by
  induction entries with
  | nil => rw [putEntry, List.filter_cons_of_neg (by simp [h])]
  | cons entry entries ih =>
      rw [putEntry]
      split_ifs with hentry
      · rw [List.filter_cons_of_neg (by simp [h]),
          List.filter_cons_of_neg (by simp [hentry, h])]
      · rw [List.filter_cons, List.filter_cons, ih]

theorem lookup_filter (p : String → Bool) (id : String) (entries : List (String × Session)) :
    (entries.filter (p ·.1)).lookup id = if p id then entries.lookup id else none := by
  induction entries with
  | nil => simp
  | cons entry entries ih =>
      rw [List.filter_cons, lookup_cons_eq_ite]
      by_cases hentry : entry.1 = id
      · rw [if_pos hentry, hentry]
        split_ifs with hp
        · rw [lookup_cons_eq_ite, if_pos hentry]
        · rw [ih, if_neg hp]
      · rw [if_neg hentry]
        split_ifs with hp hid
        · rw [lookup_cons_eq_ite, if_neg hentry, ih, if_pos hid]
        · rw [lookup_cons_eq_ite, if_neg hentry, ih, if_neg hid]
        · rw [ih, if_pos ‹_›]
        · rw [ih, if_neg ‹_›]

namespace Store

variable {s : Store} {session : Session}

theorem ext_entries {s t : Store} (h : s.entries = t.entries) : s = t := by
  cases s
  cases t
  congr

@[simp] theorem get?_put_self (s : Store) (id : String) (session : Session) :
    (s.put id session).get? id = some session :=
  lookup_putEntry_self id session s.entries

theorem get?_put_of_ne (h : id ≠ other) (s : Store) (session : Session) :
    (s.put id session).get? other = s.get? other :=
  lookup_putEntry_of_ne h session s.entries

/-- What is in the store already can be put there once more. -/
theorem put_of_get? (h : s.get? id = some session) : s.put id session = s :=
  ext_entries (putEntry_of_lookup h)

theorem get?_restrict (s : Store) (p : String → Bool) (id : String) :
    (s.restrict p).get? id = if p id then s.get? id else none :=
  lookup_filter p id s.entries

theorem restrict_put_of_pos (h : p id = true) (s : Store) (session : Session) :
    (s.put id session).restrict p = (s.restrict p).put id session :=
  ext_entries (filter_putEntry_of_pos h session s.entries)

theorem restrict_put_of_neg (h : p id = false) (s : Store) (session : Session) :
    (s.put id session).restrict p = s.restrict p :=
  ext_entries (filter_putEntry_of_neg h session s.entries)

@[simp] theorem get?_erase_self (s : Store) (id : String) : (s.erase id).get? id = none := by
  rw [erase, get?_restrict, if_neg (by simp)]

theorem get?_erase_of_ne (h : id ≠ other) (s : Store) : (s.erase id).get? other = s.get? other := by
  rw [erase, get?_restrict, if_pos (by simpa using Ne.symm h)]

theorem restrict_comm (s : Store) (p q : String → Bool) :
    (s.restrict p).restrict q = (s.restrict q).restrict p :=
  ext_entries (by simp only [restrict, List.filter_filter, Bool.and_comm])

theorem restrict_erase (s : Store) (p : String → Bool) (id : String) :
    (s.erase id).restrict p = (s.restrict p).erase id :=
  restrict_comm s _ p

/-- What is not in the store need not be erased. -/
theorem erase_of_get?_eq_none (h : s.get? id = none) : s.erase id = s := by
  have hne : ∀ entry ∈ s.entries, (entry.1 != id) = true := by
    intro entry hentry
    have hid := List.lookup_eq_none_iff.1 h entry hentry
    rwa [bne_comm]
  exact ext_entries (List.filter_eq_self.2 hne)

theorem restrict_empty (p : String → Bool) : empty.restrict p = empty := rfl

end Store

end DiagramBridge.Service
