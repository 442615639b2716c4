import DiagramBridge.Error

/-!
# Reports

A conversion may have things to tell that are no errors: that a page was taken in place of one that
does not exist, how much was found, which page of several was converted. They are told in the order
in which they were noticed, also when the conversion fails later.
-/

namespace DiagramBridge

/-- Something noticed during a conversion. -/
inductive Notice where
  /-- A page was asked for that a drawing with so many pages does not have. -/
  | pageOutOfRange (index : Int) (count : Nat)
  /-- How much was found. -/
  | extracted (nodes edges groups : Nat)
  /-- Which page of several was converted; pages are counted from zero here. -/
  | convertedPage (index count : Nat)
  deriving DecidableEq, Repr

/-- What people are told. -/
def Notice.text : Notice → String
  | pageOutOfRange index count =>
    "  Warning: Page index " ++ String.ofList (decimalInt index) ++ " out of range (found " ++
      decimalString count ++ " pages)"
  | extracted nodes edges groups =>
    "  Extracted: " ++ decimalString nodes ++ " nodes, " ++ decimalString edges ++ " edges, " ++
      decimalString groups ++ " groups"
  | convertedPage index count =>
    "  Multi-page file: converted page " ++ decimalString (index + 1) ++ " of " ++
      decimalString count

/-- What was noticed, and how it ended. -/
structure Report (α : Type) where
  notices : List Notice
  result : Except ConversionError α

namespace Report

/-- A result with nothing to tell. -/
def ofExcept {α : Type} (result : Except ConversionError α) : Report α :=
  ⟨[], result⟩

/-- A conversion that goes on with the result of another one. -/
def andThen {α β : Type} (r : Report α) (next : α → Report β) : Report β :=
  match r.result with
  | .ok a => ⟨r.notices ++ (next a).notices, (next a).result⟩
  | .error e => ⟨r.notices, .error e⟩

instance : Monad Report where
  pure a := ⟨[], .ok a⟩
  bind := andThen

/-- Tells something. -/
def tell (n : Notice) : Report Unit :=
  ⟨[n], .ok ()⟩

/-- Tells something if there is reason to. -/
def tellIf (condition : Bool) (n : Notice) : Report Unit :=
  if condition then tell n else pure ()

end Report

end DiagramBridge
