import DiagramBridge.Conversion.Options
import DiagramBridge.Json.Loose
import DiagramBridge.Json.Spelling
import DiagramBridge.Service.Reply
import DiagramBridge.Settings.Basic

/-!
# Requests

A request has a method, a path and a body, which is a JSON object as a text. Fields that are empty
in any way count as missing. A document has to be a text; an option may be anything, and what is no
text is spelled out and then is no option that anyone knows.

A text may have loose halves in it. Those of an unknown option come into the refusal, which then
cannot be sent.
-/

namespace DiagramBridge.Service

structure Request where
  method : String
  path : String
  body : String
  deriving DecidableEq, Repr

/-- The object that a body is, with the block that its loose halves are in. -/
structure Fields where
  object : Json
  block : Nat

/-- The fields of a body. A byte-order mark may stand in front. -/
def readBody (body : String) : Reply Fields :=
  let text :=
    match body.toList with
    | '\ufeff' :: s => String.ofList s
    | _ => body
  match Json.readLoose? text with
  | none => .refuse .bodyNotJson
  | some (.obj fields, block) => .ofValue ⟨.obj fields, block⟩
  | some _ => .refuse .bodyNotObject

/-- The fields of a body, where no body has no fields. -/
def readOptionalBody (body : String) : Reply Fields :=
  if body = "" then .ofValue ⟨.obj [], Json.freeBlock []⟩ else readBody body

/-- The value of a field, if it is not empty. -/
def given? (fields : Fields) (name : String) : Option Json :=
  (fields.object.field? name).filter Json.isTruthy

def document (fields : Fields) (name : String) : Reply LooseText :=
  match given? fields name with
  | none => .ofValue (.ofString "")
  | some (.str s) => .ofValue (.ofBlock fields.block s)
  | some _ => .refuse .failure

/-- The document in a field of a body. -/
def readDocument (body name : String) : Reply LooseText := do
  let fields ← readBody body
  document fields name

def switch (fields : Fields) (name : String) : Bool :=
  (given? fields name).isSome

/-- The page index that a value stands for. Fractions are cut off; an infinite number stands for
none, and no one expects it. -/
def pageIndexOf : Json → Except Refusal Int
  | .bool b => .ok (if b then 1 else 0)
  | .int n => .ok n
  | .real x =>
    match x.truncate? with
    | some n => .ok n
    | none => .error (if x.isNaN then .pageNotInteger else .failure)
  | .str s =>
    match Numeral.readInt? s.toList with
    | some n => .ok n
    | none => .error .pageNotInteger
  | .null | .arr _ | .obj _ => .error .pageNotInteger

def pageIndex (fields : Fields) (name : String) : Reply Int :=
  match given? fields name with
  | none => .ofValue 0
  | some value => ⟨[], pageIndexOf value⟩

/-- A word in a field, or another one if the field is empty. -/
def word (fields : Fields) (name default : String) : String :=
  ((given? fields name).map Json.shown).getD default

/-- The reply to options that do not exist. -/
def refuseOptions {α : Type} (fields : Fields) (e : ConversionError) : Reply α :=
  if (LooseText.ofBlock fields.block e.message).isWhole then .ofError e
  else ⟨[Text.onChars (Text.spellHalves fields.block) (Reply.refusalLine e)], .error .failure⟩

/-- The options in a request. -/
def options (settings : Settings) (fields : Fields) : Reply Options :=
  match Options.ofWords (word fields "direction" settings.direction.name)
      (word fields "diagram_type" settings.type.name) with
  | .ok options => .ofValue options
  | .error e => refuseOptions fields e

end DiagramBridge.Service
