import DiagramBridge.Proofs.Service.Liveness
import Mathlib.Data.List.Pairwise

/-!
# Clients of one service

The calls of any number of clients reach a service in some order, each marked here with its client;
the calls with one mark are what that client does. When no client touches a session that another
one has created, the service is to each of them as if it were alone.

The store is cut along the ids that a client creates. A call of the client does to its own part of
the store what it does to the whole (`answer_restrict`), and a call of another client does nothing
to that part (`restrict_answer`). By induction along the calls, what a client sees and leaves is
what it sees and leaves when it is alone (`serve_restrict`).
-/

namespace DiagramBridge.Service

variable {κ : Type} (settings : Settings) {c : Call} {p : String → Bool}

/-- The call creates the session with the given id or is about it. -/
def Call.Touches (c : Call) (id : String) : Prop :=
  c.created? = some id ∨ c.addressed? = some id

/-! ## One call -/

/-- A call that touches nothing outside a part of the store needs nothing outside of it. -/
theorem answer_restrict (h : ∀ id, c.Touches id → p id = true) (store : Store) :
    c.answer settings (store.restrict p) =
      ((c.answer settings store).1.restrict p, (c.answer settings store).2) := by
  cases c.kind store with
  | @creates id hcreated =>
      have hp : p id = true := h id (.inl hcreated)
      rw [answer_of_created hcreated, answer_of_created hcreated, Store.restrict_put_of_pos hp]
  | @misses id haddressed hid =>
      have hpart : (store.restrict p).get? id = none := by
        rw [Store.get?_restrict, hid, ite_self]
      rw [answer_of_missing haddressed hid, answer_of_missing haddressed hpart]
  | @deletes id hdeleted s hid =>
      have hp : p id = true := h id (.inr (addressed?_of_deleted? hdeleted))
      have hpart : (store.restrict p).get? id = some s := by
        rw [Store.get?_restrict, if_pos hp, hid]
      rw [answer_of_deleted hdeleted hid, answer_of_deleted hdeleted hpart, Store.restrict_erase]
  | @holds id haddressed hdeleted s hid =>
      have hp : p id = true := h id (.inr haddressed)
      have hpart : (store.restrict p).get? id = some s := by
        rw [Store.get?_restrict, if_pos hp, hid]
      rw [answer_of_held haddressed hdeleted hid, answer_of_held haddressed hdeleted hpart,
        Store.restrict_put_of_pos hp]
  | neither hcreated haddressed =>
      obtain ⟨response, hanswer⟩ := exists_answer_of_neither settings hcreated haddressed
      rw [hanswer store, hanswer]

/-- A call that touches nothing inside a part of the store leaves it alone. -/
theorem restrict_answer (h : ∀ id, c.Touches id → p id = false) (store : Store) :
    (c.answer settings store).1.restrict p = store.restrict p := by
  cases c.kind store with
  | @creates id hcreated =>
      have hp : p id = false := h id (.inl hcreated)
      rw [answer_of_created hcreated, Store.restrict_put_of_neg hp]
  | misses haddressed hid => rw [answer_of_missing haddressed hid]
  | @deletes id hdeleted s hid =>
      have hp : p id = false := h id (.inr (addressed?_of_deleted? hdeleted))
      have hpart : (store.restrict p).get? id = none := by
        rw [Store.get?_restrict, if_neg (by simp [hp])]
      rw [answer_of_deleted hdeleted hid, Store.restrict_erase, Store.erase_of_get?_eq_none hpart]
  | @holds id haddressed hdeleted s hid =>
      have hp : p id = false := h id (.inr haddressed)
      rw [answer_of_held haddressed hdeleted hid, Store.restrict_put_of_neg hp]
  | neither hcreated haddressed =>
      obtain ⟨response, hanswer⟩ := exists_answer_of_neither settings hcreated haddressed
      rw [hanswer store]

/-! ## A row of calls -/

/-- The store after a row of marked calls, and the answers with the same marks. -/
def serve : Store → List (κ × Call) → Store × List (κ × Response)
  | store, [] => (store, [])
  | store, (k, c) :: trace =>
    let here := c.answer settings store
    let later := serve here.1 trace
    (later.1, (k, here.2) :: later.2)

theorem fst_serve (store : Store) (trace : List (κ × Call)) :
    (serve settings store trace).1 = after settings store (trace.map (·.2)) := by
  induction trace generalizing store with
  | nil => rfl
  | cons x trace ih => exact ih _

variable [DecidableEq κ] {k l : κ} {trace : List (κ × Call)}

/-- The calls of one client find in its part of the store what they find in the whole. -/
theorem serve_restrict
    (hown : ∀ x ∈ trace, x.1 = k → ∀ id, x.2.Touches id → p id = true)
    (hothers : ∀ x ∈ trace, x.1 ≠ k → ∀ id, x.2.Touches id → p id = false) (store : Store) :
    serve settings (store.restrict p) (trace.filter (·.1 = k)) =
      ((serve settings store trace).1.restrict p,
        (serve settings store trace).2.filter (·.1 = k)) := by
  induction trace generalizing store with
  | nil => rfl
  | cons x trace ih =>
      obtain ⟨mark, c⟩ := x
      have hrest := ih (fun y hy => hown y (List.mem_cons_of_mem _ hy))
        (fun y hy => hothers y (List.mem_cons_of_mem _ hy)) (c.answer settings store).1
      by_cases hmark : mark = k
      · have hstep := answer_restrict settings (hown (mark, c) List.mem_cons_self hmark) store
        rw [List.filter_cons_of_pos (by simpa using hmark), serve, serve, hstep]
        simp only [hrest]
        rw [List.filter_cons_of_pos (by simpa using hmark)]
      · have hstep := restrict_answer settings (hothers (mark, c) List.mem_cons_self hmark) store
        rw [List.filter_cons_of_neg (by simpa using hmark), serve, ← hstep, hrest]
        simp only
        rw [List.filter_cons_of_neg (by simpa using hmark)]

/-! ## Separate clients -/

/-- The client creates the session with the given id, sooner or later. -/
def creates (trace : List (κ × Call)) (k : κ) (id : String) : Bool :=
  trace.any fun x => x.1 = k && x.2.created? = some id

theorem creates_iff {id : String} :
    creates trace k id = true ↔ ∃ x ∈ trace, x.1 = k ∧ x.2.created? = some id := by
  simp [creates]

/-- No two sessions are created with one id, and every client is concerned with the sessions that it
creates itself. -/
structure IsSeparate (trace : List (κ × Call)) : Prop where
  nodup_created : (trace.filterMap (·.2.created?)).Nodup
  owned : ∀ x ∈ trace, ∀ id ∈ x.2.addressed?, creates trace x.1 id = true

namespace IsSeparate

/-- Each id has one client. -/
theorem eq_of_creates (h : IsSeparate trace) {id : String} (hk : creates trace k id = true)
    (hl : creates trace l id = true) : k = l := by
  obtain ⟨x, hx, rfl, hxid⟩ := creates_iff.1 hk
  obtain ⟨y, hy, rfl, hyid⟩ := creates_iff.1 hl
  by_contra hne
  have hpairs := List.pairwise_filterMap.1 h.nodup_created
  have hsymm : Std.Symm fun x y : κ × Call => ∀ i, x.2.created? = some i →
      ∀ j, y.2.created? = some j → i ≠ j :=
    ⟨fun x y hxy i hi j hj => (hxy j hj i hi).symm⟩
  have hxy : x ≠ y := fun hxy => hne (congrArg Prod.fst hxy)
  exact hpairs.forall hx hy hxy id hxid id hyid rfl

theorem creates_of_touches (h : IsSeparate trace) {x : κ × Call} (hx : x ∈ trace) {id : String}
    (htouches : x.2.Touches id) : creates trace x.1 id = true := by
  rcases htouches with hcreated | haddressed
  · exact creates_iff.2 ⟨x, hx, rfl, hcreated⟩
  · exact h.owned x hx id haddressed

/-- The calls of a client, made alone, find and leave its part of what all calls find and leave. -/
theorem serve_filter (h : IsSeparate trace) (k : κ) :
    serve settings .empty (trace.filter (·.1 = k)) =
      ((serve settings .empty trace).1.restrict (creates trace k),
        (serve settings .empty trace).2.filter (·.1 = k)) := by
  have hown : ∀ x ∈ trace, x.1 = k → ∀ id, x.2.Touches id → creates trace k id = true := by
    rintro x hx rfl id htouches
    exact h.creates_of_touches hx htouches
  have hothers : ∀ x ∈ trace, x.1 ≠ k → ∀ id, x.2.Touches id → creates trace k id = false := by
    intro x hx hne id htouches
    rw [Bool.eq_false_iff]
    intro hk
    exact hne (h.eq_of_creates (h.creates_of_touches hx htouches) hk)
  have hrestrict := serve_restrict settings hown hothers .empty
  rwa [Store.restrict_empty] at hrestrict

/-- What is there when all calls are done was created by one of the clients. -/
theorem exists_creates {id : String} {s : Session}
    (hid : (serve settings .empty trace).1.get? id = some s) : ∃ k, creates trace k id = true := by
  rw [fst_serve] at hid
  have hlive := (isSome_get?_after_iff settings id (trace.map (·.2))).1 (by rw [hid]; rfl)
  obtain ⟨earlier, c, later, htrace, hcreated, -⟩ := hlive
  have hmem : c ∈ trace.map (·.2) := by
    rw [htrace]
    exact List.mem_append_right _ List.mem_cons_self
  obtain ⟨x, hx, rfl⟩ := List.mem_map.1 hmem
  exact ⟨x.1, creates_iff.2 ⟨x, hx, rfl, hcreated⟩⟩

end IsSeparate

/-- Each of some separate clients gets the answers that it gets alone, and all together leave the
disjoint union of what each leaves alone. The calls marked for two clients are any two sequences,
and the row of all calls any interleaving of the two. In every run, a session that was never created
or has been removed since is not found, and every other session is. -/
theorem isolated_of_isSeparate :
    (∀ (κ : Type) [DecidableEq κ] (trace : List (κ × Call)), IsSeparate trace →
      (∀ k, (serve settings .empty (trace.filter (·.1 = k))).2 =
        (serve settings .empty trace).2.filter (·.1 = k)) ∧
      (∀ id s, (serve settings .empty trace).1.get? id = some s ↔
        ∃ k, (serve settings .empty (trace.filter (·.1 = k))).1.get? id = some s) ∧
      ∀ k l id s t, (serve settings .empty (trace.filter (·.1 = k))).1.get? id = some s →
        (serve settings .empty (trace.filter (·.1 = l))).1.get? id = some t → k = l) ∧
    ∀ (history : List Call) (c : Call) (id : String), c.addressed? = some id →
      ((c.answer settings (after settings .empty history)).2.status = 404 ↔
        ¬ IsLive id history) := by
  constructor
  · intro κ _ trace h
    have halone (k : κ) (id : String) : (serve settings .empty (trace.filter (·.1 = k))).1.get? id =
        if creates trace k id then (serve settings .empty trace).1.get? id else none := by
      rw [h.serve_filter settings k, Store.get?_restrict]
    constructor
    · intro k
      rw [h.serve_filter settings k]
    constructor
    · intro id s
      simp only [halone]
      constructor
      · intro hid
        obtain ⟨k, hk⟩ := IsSeparate.exists_creates settings hid
        exact ⟨k, by rw [if_pos hk, hid]⟩
      · rintro ⟨k, hk⟩
        split_ifs at hk
        exact hk
    · intro k l id s t hk hl
      rw [halone] at hk hl
      split_ifs at hk hl with hkid hlid
      exact h.eq_of_creates hkid hlid
  · intro history c id h
    rw [status_answer_eq_iff settings h, ← isSome_get?_after_iff settings,
      Option.isSome_iff_ne_none, not_not]

/-- Two clients: each creates a session; one of them removes it and asks for it, and the other one
loads a text in between. -/
def twoClients : List (Bool × Call) :=
  [(false, ⟨"a", "POST", "/api/sessions", ""⟩), (true, ⟨"b", "POST", "/api/sessions", ""⟩),
    (true, ⟨"", "DELETE", "/api/sessions/b", ""⟩),
    (false, ⟨"", "POST", "/api/sessions/a/mermaid", "\x7b\"mermaid\": \"A-->B\"\x7d"⟩),
    (true, ⟨"", "GET", "/api/sessions/b", ""⟩), (false, ⟨"", "GET", "/api/sessions/a", ""⟩)]

theorem isolated_of_isSeparate_twoClients :
    IsSeparate twoClients ∧
      (∀ k, (serve {} .empty (twoClients.filter (·.1 = k))).2 =
        (serve {} .empty twoClients).2.filter (·.1 = k)) ∧
      (serve {} .empty twoClients).2.map (fun x => (x.1, x.2.status)) =
        [(false, 200), (true, 200), (true, 200), (false, 200), (true, 404), (false, 200)] ∧
      ¬ IsLive "b" ((twoClients.take 4).map (·.2)) := by
  have hseparate : IsSeparate twoClients := ⟨by decide +kernel, by decide +kernel⟩
  have hstatuses : (serve {} .empty twoClients).2.map (fun x => (x.1, x.2.status)) =
      [(false, 200), (true, 200), (true, 200), (false, 200), (true, 404), (false, 200)] := by
    decide +kernel
  have haddressed : (Call.mk "" ⟨"GET", "/api/sessions/b", ""⟩).addressed? = some "b" := by
    decide +kernel
  have hstatus : ((Call.mk "" ⟨"GET", "/api/sessions/b", ""⟩).answer {}
      (after {} .empty ((twoClients.take 4).map (·.2)))).2.status = 404 := by
    decide +kernel
  obtain ⟨hisolated, hlive⟩ := isolated_of_isSeparate {}
  obtain ⟨hanswers, -, -⟩ := hisolated Bool twoClients hseparate
  exact ⟨hseparate, hanswers, hstatuses, (hlive _ _ _ haddressed).1 hstatus⟩

end DiagramBridge.Service
