import DiagramBridge.Proofs.Service.Action
import DiagramBridge.Proofs.Service.Store

/-!
# What a call does to the store

A call is a request with the id of the session that it may create. There are five kinds of calls,
and each does one thing to the store: a call creates a session, it is about a session that is not
there, it removes one, it does something with one that is there, or it has nothing to do with
sessions. The answer of a call about a session depends on that session and on nothing else in the
store.
-/

namespace DiagramBridge.Service

/-- The route of a request, if it allows the method. -/
def Request.route? (r : Request) : Option Route :=
  (Route.ofPath? r.path.toList).filter (·.methods.contains r.method)

/-- The session that a route is about. -/
def Route.sessionId? : Route → Option String
  | .session id => some id
  | .sessionAction id _ => some id
  | _ => none

/-- A request, and the id of the session that it may create. -/
structure Call where
  newId : String
  request : Request

namespace Call

/-- The id of the session that a call is about. -/
def addressed? (c : Call) : Option String :=
  c.request.route?.bind Route.sessionId?

/-- The id of the session that a call creates. -/
def created? (c : Call) : Option String :=
  if c.request.route? = some .sessions then some c.newId else none

/-- The id of the session that a call removes. -/
def deleted? (c : Call) : Option String :=
  match c.request.route? with
  | some (.session id) => if c.request.method = "DELETE" then some id else none
  | _ => none

/-- What a call does with a session that is there and stays there. -/
def inSession (settings : Settings) (c : Call) (id : String) : Action Session Json :=
  match c.request.route? with
  | some (.sessionAction _ action) => act settings id c.request.body action
  | _ => display id

/-- The store after a call, and the answer. -/
def answer (settings : Settings) (c : Call) (store : Store) : Store × Response :=
  handle settings c.newId store c.request

end Call

/-- The answer to a call about a session that is not there. -/
def notFound : Response :=
  respond [] (.error .sessionNotFound)

/-! ## Routes -/

theorem exists_ofPath?_of_route? {r : Request} {route : Route} (h : r.route? = some route) :
    Route.ofPath? r.path.toList = some route ∧ route.methods.contains r.method = true := by
  rw [Request.route?] at h
  exact Option.filter_eq_some_iff.1 h

/-- A request with a route is answered by what the route performs. -/
theorem handle_of_route? {settings : Settings} {newId : String} {r : Request} {route : Route}
    (h : r.route? = some route) (store : Store) :
    handle settings newId store r = conclude (perform settings newId r route store) := by
  obtain ⟨hpath, hmethod⟩ := exists_ofPath?_of_route? h
  rw [handle]
  simp only [hpath]
  rw [replyTo, if_pos hmethod]

theorem conclude_ofReply (r : Reply Json) (store : Store) :
    conclude (Action.ofReply r store) = (store, respond r.log r.result) := rfl

/-- What needs nothing but the request has nothing to do with the store. -/
theorem exists_conclude_ofReply (r : Reply Json) :
    ∃ response, ∀ store, conclude (Action.ofReply r store) = (store, response) :=
  ⟨respond r.log r.result, conclude_ofReply r⟩

/-- A request without a route has nothing to do with the store. -/
theorem exists_handle_of_route?_eq_none (settings : Settings) (newId : String) {r : Request}
    (h : r.route? = none) :
    ∃ response, ∀ store, handle settings newId store r = (store, response) := by
  rw [Request.route?] at h
  cases hpath : Route.ofPath? r.path.toList with
  | none =>
      simp only [handle, hpath]
      split_ifs
      · exact ⟨⟨307, .text "", []⟩, fun _ => rfl⟩
      · exact exists_conclude_ofReply (.refuse .pathNotFound)
  | some route =>
      rw [hpath, Option.filter_some] at h
      split_ifs at h with hmethod
      simp only [handle, hpath, replyTo, if_neg hmethod]
      exact exists_conclude_ofReply (.refuse .methodNotAllowed)

theorem route?_of_addressed? {c : Call} {id : String} (h : c.addressed? = some id) :
    c.request.route? = some (.session id) ∨
      ∃ action, c.request.route? = some (.sessionAction id action) := by
  obtain ⟨route, hroute, hid⟩ := Option.bind_eq_some_iff.1 h
  rw [hroute]
  cases route with
  | session other =>
      rw [Option.some.inj hid]
      exact .inl rfl
  | sessionAction other action =>
      rw [Option.some.inj hid]
      exact .inr ⟨action, rfl⟩
  | toMermaid => exact absurd hid (by simp [Route.sessionId?])
  | toDrawing => exact absurd hid (by simp [Route.sessionId?])
  | pages => exact absurd hid (by simp [Route.sessionId?])
  | validate => exact absurd hid (by simp [Route.sessionId?])
  | templates => exact absurd hid (by simp [Route.sessionId?])
  | template other => exact absurd hid (by simp [Route.sessionId?])
  | sessions => exact absurd hid (by simp [Route.sessionId?])

theorem deleted?_eq_some_iff {c : Call} {id : String} :
    c.deleted? = some id ↔ c.request.route? = some (.session id) ∧ c.request.method = "DELETE" := by
  rw [Call.deleted?]
  split
  · next other hroute =>
    rw [hroute]
    split_ifs with hmethod
    · simp [hmethod]
    · simp [hmethod]
  · next hroute =>
    constructor
    · intro h
      exact absurd h (by simp)
    · rintro ⟨h, -⟩
      exact absurd h (hroute id)

theorem addressed?_of_deleted? {c : Call} {id : String} (h : c.deleted? = some id) :
    c.addressed? = some id := by
  rw [Call.addressed?, (deleted?_eq_some_iff.1 h).1]
  rfl

theorem created?_of_addressed? {c : Call} {id : String} (h : c.addressed? = some id) :
    c.created? = none := by
  rw [Call.created?, if_neg]
  rcases route?_of_addressed? h with hroute | ⟨action, hroute⟩
  · simp [hroute]
  · simp [hroute]

theorem deleted?_of_addressed?_eq_none {c : Call} (h : c.addressed? = none) :
    c.deleted? = none := by
  rw [Option.eq_none_iff_forall_ne_some]
  intro id hdeleted
  rw [addressed?_of_deleted? hdeleted] at h
  exact absurd h (by simp)

theorem deleted?_of_created? {c : Call} {id : String} (h : c.created? = some id) :
    c.deleted? = none := by
  apply deleted?_of_addressed?_eq_none
  rw [Option.eq_none_iff_forall_ne_some]
  intro other haddressed
  rw [created?_of_addressed? haddressed] at h
  exact absurd h (by simp)

/-! ## Actions in the store -/

section OnSession

variable {α : Type} {id : String} {store : Store}

theorem onSession_of_none (h : store.get? id = none) (a : Action Session α) :
    Action.onSession id a store = ⟨[], .error .sessionNotFound, store⟩ := by
  rw [Action.onSession, h]

theorem conclude_onSession_of_some {s : Session} (h : store.get? id = some s)
    (a : Action Session Json) : conclude (Action.onSession id a store) =
      (store.put id (a s).state, respond (a s).notices (a s).result) := by
  rw [Action.onSession, h]
  rfl

end OnSession

/-! ## Answers -/

section Respond

variable {log : List String} {result : Except Refusal Json}

/-- Only refusals are answered with a status of 400 or more. -/
theorem exists_error_of_refused (h : 400 ≤ (respond log result).status) :
    ∃ e, result = .error e := by
  cases result with
  | ok answer => exact absurd h (by decide : ¬ 400 ≤ 200)
  | error e => exact ⟨e, rfl⟩

theorem status_respond_ne (h : ∀ e, result = .error e → IsAboutContent e) :
    (respond log result).status ≠ 404 := by
  cases result with
  | ok answer => exact (by decide : 200 ≠ 404)
  | error e => exact h e rfl

end Respond

/-! ## The five kinds of calls -/

variable {settings : Settings} {c : Call} {id : String}

theorem answer_of_created (h : c.created? = some id) (store : Store) :
    c.answer settings store = (store.put id .empty,
      ⟨200, .json (Session.empty.toJson id), ["[app] Session created: " ++ id]⟩) := by
  rw [Call.created?] at h
  split_ifs at h with hroute
  rw [Call.answer, handle_of_route? hroute, ← Option.some.inj h]
  rfl

theorem answer_of_missing (h : c.addressed? = some id) {store : Store}
    (hid : store.get? id = none) : c.answer settings store = (store, notFound) := by
  rcases route?_of_addressed? h with hroute | ⟨action, hroute⟩
  · rw [Call.answer, handle_of_route? hroute, perform]
    split_ifs
    · rw [deleteSession, Operation.look_bind, Operation.change_bind, hid,
        Store.erase_of_get?_eq_none hid]
      rfl
    · rw [onSession_of_none hid]
      rfl
  · rw [Call.answer, handle_of_route? hroute, perform, onSession_of_none hid]
    rfl

theorem answer_of_deleted (h : c.deleted? = some id) {store : Store} {s : Session}
    (hid : store.get? id = some s) :
    c.answer settings store = (store.erase id, ⟨200, .json (.obj [("deleted", .str id)]), []⟩) := by
  obtain ⟨hroute, hmethod⟩ := deleted?_eq_some_iff.1 h
  rw [Call.answer, handle_of_route? hroute, perform, if_pos hmethod, deleteSession,
    Operation.look_bind, Operation.change_bind, hid]
  rfl

/-- Something is done with a session that is there, whatever else is in the store. -/
theorem answer_of_held (h : c.addressed? = some id) (hdeleted : c.deleted? = none) {store : Store}
    {s : Session} (hid : store.get? id = some s) :
    c.answer settings store = (store.put id (c.inSession settings id s).state,
      respond (c.inSession settings id s).notices (c.inSession settings id s).result) := by
  rcases route?_of_addressed? h with hroute | ⟨action, hroute⟩
  · have hmethod : c.request.method ≠ "DELETE" := by
      intro hmethod
      rw [deleted?_eq_some_iff.2 ⟨hroute, hmethod⟩] at hdeleted
      exact absurd hdeleted (by simp)
    rw [Call.answer, handle_of_route? hroute, perform, if_neg hmethod,
      conclude_onSession_of_some hid, Call.inSession, hroute]
  · rw [Call.answer, handle_of_route? hroute, perform, conclude_onSession_of_some hid,
      Call.inSession, hroute]

theorem failsOnly_inSession (settings : Settings) (c : Call) (id : String) :
    Operation.FailsOnly IsAboutContent (c.inSession settings id) := by
  rw [Call.inSession]
  split
  · exact failsOnly_act settings id _ _
  · exact failsOnly_display id

/-- What is done with a session that is there is not answered as if it were not. -/
theorem status_answer_of_held (h : c.addressed? = some id) (hdeleted : c.deleted? = none)
    {store : Store} {s : Session} (hid : store.get? id = some s) :
    (c.answer settings store).2.status ≠ 404 := by
  rw [answer_of_held h hdeleted hid]
  exact status_respond_ne (failsOnly_inSession settings c id s)

theorem exists_answer_of_neither (settings : Settings) (hcreated : c.created? = none)
    (haddressed : c.addressed? = none) :
    ∃ response, ∀ store, c.answer settings store = (store, response) := by
  cases hroute : c.request.route? with
  | none => exact exists_handle_of_route?_eq_none settings c.newId hroute
  | some route =>
      simp only [Call.answer, handle_of_route? hroute]
      rw [Call.addressed?, hroute, Option.bind_some] at haddressed
      cases route with
      | toMermaid => exact exists_conclude_ofReply _
      | toDrawing => exact exists_conclude_ofReply _
      | pages => exact exists_conclude_ofReply _
      | validate => exact exists_conclude_ofReply _
      | templates => exact exists_conclude_ofReply _
      | template other => exact exists_conclude_ofReply _
      | sessions =>
          rw [Call.created?, if_pos hroute] at hcreated
          exact absurd hcreated (by simp)
      | session other => exact absurd haddressed (by simp [Route.sessionId?])
      | sessionAction other action => exact absurd haddressed (by simp [Route.sessionId?])

/-- The kinds of calls that a store can be given. -/
inductive Call.Kind (c : Call) (store : Store) : Prop where
  | creates {id : String} (h : c.created? = some id)
  | misses {id : String} (h : c.addressed? = some id) (hid : store.get? id = none)
  | deletes {id : String} (h : c.deleted? = some id) {s : Session} (hid : store.get? id = some s)
  | holds {id : String} (h : c.addressed? = some id) (hdeleted : c.deleted? = none) {s : Session}
      (hid : store.get? id = some s)
  | neither (hcreated : c.created? = none) (haddressed : c.addressed? = none)

theorem Call.kind (c : Call) (store : Store) : c.Kind store := by
  cases hcreated : c.created? with
  | some id => exact .creates hcreated
  | none =>
      cases haddressed : c.addressed? with
      | none => exact .neither hcreated haddressed
      | some id =>
          cases hid : store.get? id with
          | none => exact .misses haddressed hid
          | some s =>
              cases hdeleted : c.deleted? with
              | none => exact .holds haddressed hdeleted hid
              | some other =>
                  have hsame : some other = some id :=
                    (addressed?_of_deleted? hdeleted).symm.trans haddressed
                  rw [← Option.some.inj hsame] at hid
                  exact .deletes hdeleted hid

end DiagramBridge.Service
