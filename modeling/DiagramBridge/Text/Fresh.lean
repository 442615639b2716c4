import DiagramBridge.Number.Digits

/-!
# Names that are not in use

Where a name has to be new, numbers are tried one after the other. Among more numbers than there
are names in use one is free, as long as different numbers give different names, so the search can
be bounded by the count of the names in use.
-/

namespace DiagramBridge.Text

/-- The first number from `k` on whose name is not taken, if one of the next `fuel` is such. -/
def firstFree (taken : String → Bool) (name : Nat → String) : Nat → Nat → Nat
  | 0, k => k
  | fuel + 1, k => if taken (name k) then firstFree taken name fuel (k + 1) else k

/-- The first of `base`, `base_1`, `base_2`, … that is not in use. -/
def numberedName (used : List String) (base : String) : String :=
  if used.contains base then
    let name := fun n => base ++ "_" ++ decimalString n
    name (firstFree used.contains name used.length 1)
  else base

/-- The first of `base`, `base_`, `base__`, … that is not in use. -/
def lengthenedName (used : List String) (base : String) : String :=
  let name := fun n => base ++ String.ofList (List.replicate n '_')
  name (firstFree used.contains name used.length 0)

end DiagramBridge.Text
