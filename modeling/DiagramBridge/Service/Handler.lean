import DiagramBridge.Service.Request
import DiagramBridge.Service.Route
import DiagramBridge.Service.Store
import DiagramBridge.Service.View

/-!
# Answering requests

Conversions, checks and templates need nothing but the request. Sessions are kept in a store: a
request about a session looks it up before anything else, and what it does to the session is done in
the store. The log and the store are what a request leaves behind, whether it is refused or not. An
answer is encoded last of all: a session whose Mermaid text has a loose half is kept, but it cannot
be sent.
-/

namespace DiagramBridge.Service

/-- What an answer holds: a JSON value or a plain text. -/
inductive Body where
  | json (j : Json)
  | text (s : String)

/-- The answer to a request, with the lines that it leaves on the log. -/
structure Response where
  status : Nat
  body : Body
  log : List String

/-- The answer of a refusal. -/
def refusalBody : Refusal → Body
  | .failure => .text Refusal.failure.message
  | r => .json (.obj [("detail", .str r.message)])

/-- Converts a drawing in the request. -/
def convertToMermaid (settings : Settings) (body : String) : Reply Json := do
  let fields ← readBody body
  let page ← pageIndex fields "page_index"
  let options ← options settings fields
  let drawing ← document fields "xml"
  let result ← .ofReport (drawing.toMermaid options page)
  pure result.toJson

/-- Converts a Mermaid text in the request. The address always holds the page as markup. -/
def convertToDrawing (body : String) : Reply Json := do
  let fields ← readBody body
  let mermaid ← document fields "mermaid"
  let data ← .ofReport mermaid.toDrawingData
  let drawing ←
    if switch fields "compress" then .ofReport (mermaid.toDrawing true)
    else pure data.drawing
  pure (.obj [("xml", .str drawing), ("data_url", .str data.url)])

/-- Lists the pages of a drawing in the request. -/
def listPages (body : String) : Reply Json := do
  let drawing ← readDocument body "xml"
  let pages ← .ofExcept drawing.pages
  pure (pagesJson pages)

/-- Checks a Mermaid text in the request. -/
def validate (body : String) : Reply Json := do
  let mermaid ← readDocument body "mermaid"
  let issues := Mermaid.check mermaid.text
  pure (.obj [("valid", .bool issues.isEmpty), ("issues", .arr (issues.map Mermaid.Issue.toJson))])

def showTemplate (id : String) : Reply Json :=
  match Mermaid.Template.ofId? id with
  | some t => .ofValue t.toJson
  | none => .refuse .templateNotFound

/-- An operation of the service: it may write on the log, and it may be refused. -/
abbrev Action (σ α : Type) : Type :=
  Operation String Refusal σ α

namespace Action

variable {σ α : Type}

/-- What needs nothing but the request. -/
def ofReply (r : Reply α) : Action σ α :=
  fun s => ⟨r.log, r.result, s⟩

/-- An operation whose notices go on the log, as does its error. -/
def ofOperation (op : Operation Notice ConversionError σ α) : Action σ α :=
  fun s =>
    let o := op s
    let r := Reply.ofReport ⟨o.notices, o.result⟩
    ⟨r.log, r.result, o.state⟩

/-- An action on the session with the given id. What it changes there is changed in the store. -/
def onSession (id : String) (act : Action Session α) : Action Store α :=
  fun store =>
    match store.get? id with
    | some s =>
      let o := act s
      ⟨o.notices, o.result, store.put id o.state⟩
    | none => ⟨[], .error .sessionNotFound, store⟩

end Action

/-- Shows a session as it stands. -/
def display (id : String) : Action Session Json := do
  let s ← .look
  if s.isSendable then pure (s.toJson id) else .fail .failure

/-- Does something with the session that has the given id. -/
def act (settings : Settings) (id body : String) : SessionAction → Action Session Json
  | .loadDrawing => do
    let drawing ← .ofReply (readDocument body "xml")
    let pages ← .ofOperation (Session.loadDrawing drawing)
    pure (.obj [("pages", pagesJson pages)])
  | .loadMermaid => do
    let mermaid ← .ofReply (readDocument body "mermaid")
    .ofOperation (Session.loadMermaid mermaid)
    display id
  | .selectPage => do
    let fields ← .ofReply (readBody body)
    let index ← .ofReply (pageIndex fields "index")
    let page ← .ofOperation (Session.selectPage index)
    pure page.toJson
  | .toMermaid => do
    let fields ← .ofReply (readOptionalBody body)
    let options ← .ofReply (options settings fields)
    let result ← .ofOperation (Session.toMermaid options)
    pure (.obj [("mermaid", .str result.mermaid), ("diagram_type", .str result.type.name)])
  | .toDrawing => do
    let fields ← .ofReply (readOptionalBody body)
    let drawing ← .ofOperation (Session.toDrawing (switch fields "compress"))
    let s ← .look
    pure (.obj [("xml", .str drawing), ("pages", pagesJson s.pages)])

def createSession (newId : String) : Action Store Json := do
  .change (·.put newId .empty)
  .tell ("[app] Session created: " ++ newId)
  pure (Session.empty.toJson newId)

/-- Removes a session, if it is there. -/
def deleteSession (id : String) : Action Store Json := do
  let store ← .look
  .change (·.erase id)
  if (store.get? id).isSome then pure (.obj [("deleted", .str id)])
  else .fail .sessionNotFound

/-- Answers a request that a route allows. -/
def perform (settings : Settings) (newId : String) (request : Request) :
    Route → Action Store Json
  | .toMermaid => .ofReply (convertToMermaid settings request.body)
  | .toDrawing => .ofReply (convertToDrawing request.body)
  | .pages => .ofReply (listPages request.body)
  | .validate => .ofReply (validate request.body)
  | .templates => .ofReply (.ofValue (.arr (Mermaid.Template.all.map Mermaid.Template.toJson)))
  | .template id => .ofReply (showTemplate id)
  | .sessions => createSession newId
  | .session id =>
    if request.method = "DELETE" then deleteSession id else .onSession id (display id)
  | .sessionAction id action => .onSession id (act settings id request.body action)

/-- Answers a request to a route. -/
def replyTo (settings : Settings) (newId : String) (request : Request) (route : Route) :
    Action Store Json :=
  if route.methods.contains request.method then perform settings newId request route
  else .fail .methodNotAllowed

/-- The answer to a request that ends in a certain way, with what was put on the log. -/
def respond (log : List String) : Except Refusal Json → Response
  | .ok answer => ⟨200, .json answer, log⟩
  | .error r => ⟨r.status, refusalBody r, log⟩

/-- The store after an action, and the answer. -/
def conclude (o : Ending String Refusal Store Json) : Store × Response :=
  (o.state, respond o.notices o.result)

/-- Answers a request. `newId` is the id of the session that the request may create. -/
def handle (settings : Settings) (newId : String) (store : Store) (request : Request) :
    Store × Response :=
  let path := request.path.toList
  match Route.ofPath? path with
  | some route => conclude (replyTo settings newId request route store)
  | none =>
    if Route.isDetour path then (store, ⟨307, .text "", []⟩)
    else conclude ((.fail .pathNotFound : Action Store Json) store)

/-- The line that a service leaves on the log when it starts. -/
def startLine (settings : Settings) : String :=
  "[app] Converter ready (default direction " ++ settings.direction.name ++ ", diagram type " ++
    settings.type.name ++ ")"

/-- The line that a service leaves on the log when it stops. -/
def stopLine (store : Store) : String :=
  "[app] Shutdown complete (" ++ decimalString store.size ++ " sessions dropped)"

end DiagramBridge.Service
