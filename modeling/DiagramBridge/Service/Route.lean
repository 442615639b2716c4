import DiagramBridge.Text.Blank

/-!
# Routes

The path of a request names what the request is about, and each such thing allows certain methods.
A path that differs from that of a route by slashes at its end leads there by a detour.
-/

namespace DiagramBridge.Service

open Text

/-- What can be done with a session. -/
inductive SessionAction where
  | loadDrawing | loadMermaid | selectPage | toMermaid | toDrawing
  deriving DecidableEq, Repr

namespace SessionAction

def all : List SessionAction := [loadDrawing, loadMermaid, selectPage, toMermaid, toDrawing]

/-- The name of an action in a path. -/
def name : SessionAction → String
  | loadDrawing => "drawio"
  | loadMermaid => "mermaid"
  | selectPage => "page"
  | toMermaid => "to-mermaid"
  | toDrawing => "to-drawio"

def ofName? (s : String) : Option SessionAction :=
  all.find? (·.name == s)

end SessionAction

/-- What a request can be about. -/
inductive Route where
  | toMermaid
  | toDrawing
  | pages
  | validate
  | templates
  | template (id : String)
  | sessions
  | session (id : String)
  | sessionAction (id : String) (action : SessionAction)
  deriving DecidableEq, Repr

namespace Route

/-- The route of the parts of a path. -/
def ofParts? : List String → Option Route
  | ["convert", "to-mermaid"] => some .toMermaid
  | ["convert", "to-drawio"] => some .toDrawing
  | ["pages"] => some .pages
  | ["validate"] => some .validate
  | ["templates"] => some .templates
  | ["templates", id] => if id = "" then none else some (.template id)
  | ["sessions"] => some .sessions
  | ["sessions", id] => if id = "" then none else some (.session id)
  | ["sessions", id, action] =>
    if id = "" then none else (SessionAction.ofName? action).map (.sessionAction id)
  | _ => none

def ofPath? (path : List Char) : Option Route :=
  match (path.splitOn '/').map String.ofList with
  | "" :: "api" :: parts => ofParts? parts
  | _ => none

/-- A path without the slashes at its end, or with one if it has none. -/
def otherEnd (path : List Char) : List Char :=
  if path.getLast? = some '/' then trimEndChar '/' path else path ++ ['/']

/-- Whether a path that has no route leads to one by a detour. -/
def isDetour (path : List Char) : Bool :=
  path != ['/'] && (ofPath? (otherEnd path)).isSome

/-- The methods that a route allows. -/
def methods : Route → List String
  | templates | template _ => ["GET"]
  | session _ => ["GET", "DELETE"]
  | _ => ["POST"]

end Route

end DiagramBridge.Service
