import DiagramBridge.Number.Binary64

/-!
# JSON values

Numbers come in two kinds: those written without fraction and exponent are integers of any size,
the others are binary floating-point numbers. The fields of an object keep their order; a key
occurs once.
-/

namespace DiagramBridge

/-- A JSON value. -/
inductive Json where
  | null
  | bool (b : Bool)
  | int (n : Int)
  | real (x : Binary64)
  | str (s : String)
  | arr (items : List Json)
  | obj (fields : List (String × Json))

namespace Json

/-- Puts a field in the place of the one that has its key, or at the end. -/
def setField (fields : List (String × Json)) (key : String) (value : Json) :
    List (String × Json) :=
  match fields with
  | [] => [(key, value)]
  | (k, v) :: rest => if k = key then (k, value) :: rest else (k, v) :: setField rest key value

/-- The fields with the given keys and values, where the last value of a key counts. -/
def ofFields (fields : List (String × Json)) : Json :=
  .obj (fields.foldl (fun acc f => setField acc f.1 f.2) [])

/-- The field of an object with the given key. -/
def field? : Json → String → Option Json
  | .obj fields, key => fields.lookup key
  | _, _ => none

/-- Whether a value counts as given: neither null, false nor zero, and not an empty text, array or
object. -/
def isTruthy : Json → Bool
  | null => false
  | bool b => b
  | int n => n ≠ 0
  | real x => !x.isZero
  | str s => s ≠ ""
  | arr items => !items.isEmpty
  | obj fields => !fields.isEmpty

end Json

end DiagramBridge
