import DiagramBridge.Proofs.Service.Call
import Mathlib.Data.List.Induction

/-!
# Which sessions are there

A session is there from the call that creates it to the call that removes it, whatever else happens
in between. What one call does to the presence of a session is `isSome_get?_answer_iff`; a row of
calls adds up to `isSome_get?_after_iff`.
-/

namespace DiagramBridge.Service

variable (settings : Settings) {c : Call} {id : String} {store : Store} {history : List Call}

/-- The store after a row of calls. -/
def after (store : Store) (history : List Call) : Store :=
  history.foldl (fun store c => (c.answer settings store).1) store

theorem after_append_singleton (store : Store) (history : List Call) (c : Call) :
    after settings store (history ++ [c]) =
      (c.answer settings (after settings store history)).1 := by
  rw [after, List.foldl_append]
  rfl

/-- A session was created under the given id, and it has not been removed since. -/
def IsLive (id : String) (history : List Call) : Prop :=
  ∃ earlier c later, history = earlier ++ c :: later ∧ c.created? = some id ∧
    ∀ d ∈ later, d.deleted? ≠ some id

theorem not_isLive_nil (id : String) : ¬ IsLive id [] := by
  rintro ⟨earlier, c, later, h, -⟩
  exact absurd h (by simp)

theorem isLive_append_singleton :
    IsLive id (history ++ [c]) ↔
      c.created? = some id ∨ (IsLive id history ∧ c.deleted? ≠ some id) := by
  constructor
  · rintro ⟨earlier, d, later, h, hcreated, hlater⟩
    rcases List.eq_nil_or_concat later with rfl | ⟨front, e, rfl⟩
    · obtain ⟨-, hc⟩ := List.append_inj' h rfl
      rw [(List.cons.inj hc).1]
      exact .inl hcreated
    · rw [List.concat_eq_append] at h hlater
      rw [← List.cons_append, ← List.append_assoc] at h
      obtain ⟨hhistory, hc⟩ := List.append_inj' h rfl
      rw [(List.cons.inj hc).1]
      exact .inr ⟨⟨earlier, d, front, hhistory, hcreated,
        fun x hx => hlater x (List.mem_append_left _ hx)⟩, hlater e (by simp)⟩
  · rintro (hcreated | ⟨⟨earlier, d, later, rfl, hcreated, hlater⟩, hdeleted⟩)
    · exact ⟨history, c, [], rfl, hcreated, by simp⟩
    · refine ⟨earlier, d, later ++ [c], by simp, hcreated, ?_⟩
      intro x hx
      rcases List.mem_append.1 hx with hx | hx
      · exact hlater x hx
      · rwa [List.mem_singleton.1 hx]

/-- After a call a session is there if the call created it, or if it was there before and the call
did not remove it. -/
theorem isSome_get?_answer_iff :
    ((c.answer settings store).1.get? id).isSome = true ↔
      c.created? = some id ∨ ((store.get? id).isSome = true ∧ c.deleted? ≠ some id) := by
  cases c.kind store with
  | @creates other hcreated =>
      rw [answer_of_created hcreated, hcreated, deleted?_of_created? hcreated]
      by_cases h : other = id
      · rw [h, Store.get?_put_self]
        simp
      · rw [Store.get?_put_of_ne h]
        simp [h]
  | @misses other haddressed hid =>
      rw [answer_of_missing haddressed hid, created?_of_addressed? haddressed]
      have hkept : (store.get? id).isSome = true → c.deleted? ≠ some id := by
        intro hsome hdeleted
        have hsame : some other = some id :=
          haddressed.symm.trans (addressed?_of_deleted? hdeleted)
        rw [← Option.some.inj hsame, hid] at hsome
        exact absurd hsome (by simp)
      simpa using hkept
  | @deletes other hdeleted s hid =>
      rw [answer_of_deleted hdeleted hid, hdeleted,
        created?_of_addressed? (addressed?_of_deleted? hdeleted)]
      by_cases h : other = id
      · rw [h, Store.get?_erase_self]
        simp
      · rw [Store.get?_erase_of_ne h]
        simp [h]
  | @holds other haddressed hdeleted s hid =>
      rw [answer_of_held haddressed hdeleted hid, created?_of_addressed? haddressed, hdeleted]
      by_cases h : other = id
      · rw [h] at hid
        rw [h, Store.get?_put_self, hid]
        simp
      · rw [Store.get?_put_of_ne h]
        simp
  | neither hcreated haddressed =>
      obtain ⟨response, hanswer⟩ := exists_answer_of_neither settings hcreated haddressed
      rw [hanswer store, hcreated, deleted?_of_addressed?_eq_none haddressed]
      simp

theorem isSome_get?_after_iff (id : String) (history : List Call) :
    ((after settings .empty history).get? id).isSome = true ↔ IsLive id history := by
  induction history using List.reverseRecOn with
  | nil =>
      change (none : Option Session).isSome = true ↔ _
      simp [not_isLive_nil]
  | append_singleton history c ih =>
      rw [after_append_singleton, isSome_get?_answer_iff, isLive_append_singleton, ih]

/-- A call about a session is answered as one about none just when the session is not there. -/
theorem status_answer_eq_iff (h : c.addressed? = some id) :
    (c.answer settings store).2.status = 404 ↔ store.get? id = none := by
  cases hid : store.get? id with
  | none =>
      rw [answer_of_missing h hid]
      exact ⟨fun _ => rfl, fun _ => rfl⟩
  | some s =>
      have hstatus : (c.answer settings store).2.status ≠ 404 := by
        cases hdeleted : c.deleted? with
        | none => exact status_answer_of_held h hdeleted hid
        | some other =>
            have hsame : some other = some id := (addressed?_of_deleted? hdeleted).symm.trans h
            rw [← Option.some.inj hsame] at hid
            rw [answer_of_deleted hdeleted hid]
            exact (by decide : 200 ≠ 404)
      simp [hstatus]

end DiagramBridge.Service
