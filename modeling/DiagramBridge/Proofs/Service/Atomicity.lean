import DiagramBridge.Proofs.Service.Call

/-!
# Refused requests

An operation on a session fails before it changes anything, so nothing has to be taken back when it
fails. For a request this is not enough, since its answer is encoded after the operation. Most
answers show nothing that could not be encoded, but the one to a load of a Mermaid text shows that
text: if it has a loose half in it, the request is answered as a failure and the session has changed
all the same. Every other request that is refused leaves the store as it was, which sessions there
are and what is in each of them.
-/

namespace DiagramBridge.Service

/-- The request loads a Mermaid text with loose halves into the session with the given id. -/
structure Request.LoadsLoose (r : Request) (id : String) (m : LooseText) : Prop where
  route : r.route? = some (.sessionAction id .loadMermaid)
  read : (readDocument r.body "mermaid").result = .ok m
  loose : m.isWhole = false

variable {settings : Settings} {c : Call} {id : String} {store : Store} {s : Session}

theorem state_inSession_of_error {e : Refusal} (haddressed : c.addressed? = some id)
    (he : (c.inSession settings id s).result = .error e) :
    (c.inSession settings id s).state = s ∨ ∃ m, c.request.LoadsLoose id m := by
  rcases route?_of_addressed? haddressed with hroute | ⟨action, hroute⟩
  · rw [Call.inSession, hroute]
    exact .inl (isReading_display id s)
  · rw [Call.inSession, hroute] at he ⊢
    by_cases haction : action = .loadMermaid
    · rw [haction] at he hroute ⊢
      rcases state_act_loadMermaid_of_error he with hstate | ⟨m, hread, hloose⟩
      · exact .inl hstate
      · exact .inr ⟨m, hroute, hread, hloose⟩
    · exact .inl ((isOrderly_act settings id _ haction).atomic s e he)

theorem answer_of_loadsLoose {m : LooseText} (h : c.request.LoadsLoose id m)
    (hid : store.get? id = some s) :
    (c.answer settings store).1 = store.put id { s with mermaid := some m } ∧
      (c.answer settings store).2.status = 500 := by
  obtain ⟨hresult, hstate⟩ := act_loadMermaid_of_loose settings id s h.read h.loose
  have haddressed : c.addressed? = some id := by
    rw [Call.addressed?, h.route]
    rfl
  have hdeleted : c.deleted? = none := by
    rw [Call.deleted?, h.route]
  rw [answer_of_held haddressed hdeleted hid, Call.inSession, h.route, hresult, hstate]
  exact ⟨rfl, rfl⟩

theorem store_eq_of_refused (h : 400 ≤ (c.answer settings store).2.status) :
    (c.answer settings store).1 = store ∨
      ∃ id m s, c.request.LoadsLoose id m ∧ store.get? id = some s := by
  cases c.kind store with
  | creates hcreated =>
      rw [answer_of_created hcreated] at h
      exact absurd h (by decide : ¬ 400 ≤ 200)
  | misses haddressed hid =>
      rw [answer_of_missing haddressed hid]
      exact .inl rfl
  | deletes hdeleted hid =>
      rw [answer_of_deleted hdeleted hid] at h
      exact absurd h (by decide : ¬ 400 ≤ 200)
  | @holds id haddressed hdeleted s hid =>
      rw [answer_of_held haddressed hdeleted hid] at h ⊢
      obtain ⟨e, he⟩ := exists_error_of_refused h
      rcases state_inSession_of_error haddressed he with hstate | ⟨m, hm⟩
      · rw [hstate]
        exact .inl (Store.put_of_get? hid)
      · exact .inr ⟨id, m, s, hm, hid⟩
  | neither hcreated haddressed =>
      obtain ⟨response, hanswer⟩ := exists_answer_of_neither settings hcreated haddressed
      rw [hanswer store]
      exact .inl rfl

/-- A load of a text with loose halves changes nothing only if the session has that text already. -/
theorem store_eq_iff_of_loadsLoose {m : LooseText} (h : c.request.LoadsLoose id m)
    (hid : store.get? id = some s) :
    (c.answer settings store).1 = store ↔ s.mermaid = some m := by
  rw [(answer_of_loadsLoose h hid).1]
  constructor
  · intro heq
    have hput : (store.put id { s with mermaid := some m }).get? id = store.get? id := by
      rw [heq]
    rw [Store.get?_put_self, hid] at hput
    exact congrArg Session.mermaid (Option.some.inj hput.symm)
  · intro hm
    rw [← hm]
    exact Store.put_of_get? hid

/-- An operation that ends with an error leaves its session as it was. A request that is refused
leaves the store as it was, just when it is no load of a Mermaid text with loose halves into a
session that has another one: such a load is answered as a failure, and it has put the text into the
session. -/
theorem unchanged_of_refused (settings : Settings) (newId : String) (store : Store)
    (request : Request) :
    (∀ (s : Session) (c : Session.Command) (e : ConversionError),
      (c.perform s).result = .error e → (c.perform s).state = s) ∧
    (400 ≤ (handle settings newId store request).2.status →
      ((handle settings newId store request).1 = store ↔
        ∀ id m s, request.LoadsLoose id m → store.get? id = some s → s.mermaid = some m)) ∧
    ∀ id m s, request.LoadsLoose id m → store.get? id = some s →
      (handle settings newId store request).1 = store.put id { s with mermaid := some m } ∧
        (handle settings newId store request).2.status = 500 := by
  constructor
  · intro s c e he
    exact Session.isAtomic_of_settles (Session.settles_perform c) s e he
  constructor
  · intro h
    constructor
    · intro heq id m s hm hid
      exact (store_eq_iff_of_loadsLoose (c := ⟨newId, request⟩) hm hid).1 heq
    · intro hkept
      rcases store_eq_of_refused (c := ⟨newId, request⟩) h with heq | ⟨id, m, s, hm, hid⟩
      · exact heq
      · exact (store_eq_iff_of_loadsLoose (c := ⟨newId, request⟩) hm hid).2 (hkept id m s hm hid)
  · intro id m s h hid
    exact answer_of_loadsLoose (c := ⟨newId, request⟩) h hid

/-- A request whose Mermaid text is half of a surrogate pair. -/
def halfRequest : Request :=
  ⟨"POST", "/api/sessions/a/mermaid", "\x7b\"mermaid\": \"\\ud800\"\x7d"⟩

/-- A Mermaid text without nodes is not converted, a drawing that is a number is answered as a
failure, and half of a pair is kept. -/
theorem unchanged_of_refused_halfRequest :
    let s : Session := { mermaid := some (.ofString "flowchart TD") }
    let store := Store.empty.put "a" s
    let request : Request := ⟨"POST", "/api/sessions/a/drawio", "\x7b\"xml\": 1\x7d"⟩
    let half : LooseText := ⟨String.singleton (Char.ofNat 0xF0000), some 0xF0000⟩
    (Session.Command.perform (.toDrawing true) s).result = .error .noNodesInMermaid ∧
      (Session.Command.perform (.toDrawing true) s).state = s ∧
      (handle {} "b" store request).2.status = 500 ∧ (handle {} "b" store request).1 = store ∧
      (handle {} "b" store halfRequest).1 = store.put "a" { s with mermaid := some half } ∧
      (handle {} "b" store halfRequest).2.status = 500 := by
  intro s store request half
  obtain ⟨hsession, hrefused, -⟩ := unchanged_of_refused {} "b" store request
  obtain ⟨-, -, hloose⟩ := unchanged_of_refused {} "b" store halfRequest
  have hresult : (Session.Command.perform (.toDrawing true) s).result =
      .error .noNodesInMermaid := by
    decide +kernel
  have hstatus : (handle {} "b" store request).2.status = 500 := by
    decide +kernel
  have hstore : (handle {} "b" store request).1 = store := by
    have hroute : request.route? = some (.sessionAction "a" .loadDrawing) := by
      decide +kernel
    apply (hrefused (by rw [hstatus]; decide)).2
    intro id m t hm
    rw [hm.route] at hroute
    exact absurd hroute (by simp)
  have hhalf : halfRequest.LoadsLoose "a" half :=
    ⟨by decide +kernel, by decide +kernel, by decide⟩
  exact ⟨hresult, hsession s (.toDrawing true) _ hresult, hstatus, hstore,
    hloose "a" half s hhalf rfl⟩

/-- The session that such a request is about is not as it was when it was created. -/
theorem not_unchanged_halfRequest :
    let store := (handle {} "a" .empty ⟨"POST", "/api/sessions", ""⟩).1
    (handle {} "b" store halfRequest).2.status = 500 ∧
      (handle {} "b" store halfRequest).1 ≠ store := by
  intro store
  have hstatus : (handle {} "b" store halfRequest).2.status = 500 := by
    decide +kernel
  have hbefore : (store.get? "a").map (·.mermaid.isSome) = some false := by
    decide +kernel
  have hafter : ((handle {} "b" store halfRequest).1.get? "a").map (·.mermaid.isSome) =
      some true := by
    decide +kernel
  refine ⟨hstatus, ?_⟩
  intro heq
  rw [heq, hbefore] at hafter
  exact absurd hafter (by decide)

end DiagramBridge.Service
