import DiagramBridge.Json.Basic
import DiagramBridge.Report

/-!
# Replies

What comes of a request: lines for the log, and a value or the reason why there is none. Each reason
has its status and its text. A refused conversion is put on the log.
-/

namespace DiagramBridge.Service

/-- Why a request is refused. -/
inductive Refusal where
  | conversion (e : ConversionError)
  | bodyNotJson
  | bodyNotObject
  | pageNotInteger
  | sessionNotFound
  | templateNotFound
  | pathNotFound
  | methodNotAllowed
  /-- The request has a value that no one expects there. -/
  | failure
  deriving DecidableEq, Repr

namespace Refusal

/-- The status of the answer. -/
def status : Refusal → Nat
  | conversion e => if e.family = .options then 422 else 400
  | bodyNotJson | bodyNotObject => 400
  | pageNotInteger => 422
  | sessionNotFound | templateNotFound | pathNotFound => 404
  | methodNotAllowed => 405
  | failure => 500

/-- What people are told. -/
def message : Refusal → String
  | conversion e => e.message
  | bodyNotJson => "Request body must be JSON"
  | bodyNotObject => "Request body must be a JSON object"
  | pageNotInteger => "page index must be an integer"
  | sessionNotFound => "Session not found"
  | templateNotFound => "Template not found"
  | pathNotFound => "Not Found"
  | methodNotAllowed => "Method Not Allowed"
  | failure => "Internal Server Error"

end Refusal

/-- Lines for the log, and how it ended. -/
structure Reply (α : Type) where
  log : List String
  result : Except Refusal α

namespace Reply

/-- A value with nothing to log. -/
def ofValue {α : Type} (a : α) : Reply α := ⟨[], .ok a⟩

/-- A refusal with nothing to log. -/
def refuse {α : Type} (r : Refusal) : Reply α := ⟨[], .error r⟩

/-- A reply that goes on with the value of another one. -/
def andThen {α β : Type} (r : Reply α) (next : α → Reply β) : Reply β :=
  match r.result with
  | .ok a => ⟨r.log ++ (next a).log, (next a).result⟩
  | .error e => ⟨r.log, .error e⟩

instance : Monad Reply where
  pure := ofValue
  bind := andThen

/-- Puts a line on the log. -/
def write (line : String) : Reply Unit := ⟨[line], .ok ()⟩

/-- The line of a refused conversion. -/
def refusalLine (e : ConversionError) : String :=
  "[app] " ++ e.family.name ++ ": " ++ e.message

/-- What comes of an error of a conversion. One that is not foreseen is no refusal, and nothing is
put on the log. -/
def ofError {α : Type} (e : ConversionError) : Reply α :=
  if e.family = .encoding then .refuse .failure
  else ⟨[refusalLine e], .error (.conversion e)⟩

/-- The reply of a conversion. -/
def ofReport {α : Type} (r : Report α) : Reply α :=
  let log := r.notices.map Notice.text
  match r.result with
  | .ok a => ⟨log, .ok a⟩
  | .error e =>
    let reply : Reply α := .ofError e
    ⟨log ++ reply.log, reply.result⟩

/-- The reply of a step that notices nothing. -/
def ofExcept {α : Type} (r : Except ConversionError α) : Reply α :=
  ofReport (.ofExcept r)

end Reply

end DiagramBridge.Service
