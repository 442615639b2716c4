import DiagramBridge.Report

/-!
# Operations on a state

An operation is given a state, which it may change; on its way it may notice things, and it ends
with a value or with an error. An error ends it where it stands: what was noticed and what was
changed until then remains. Nothing is ever taken back, so whether a failed operation has left its
state alone is a matter of the order in which it does things.
-/

namespace DiagramBridge

/-- What is there when an operation has ended: notices of type `ν`, a value of type `α` or an error
of type `ε`, and a state of type `σ`. -/
structure Ending (ν ε σ α : Type) where
  notices : List ν
  result : Except ε α
  state : σ

/-- An operation on a state. -/
def Operation (ν ε σ α : Type) : Type :=
  σ → Ending ν ε σ α

namespace Operation

variable {ν ε σ α β : Type}

def ofValue (a : α) : Operation ν ε σ α :=
  fun s => ⟨[], .ok a, s⟩

/-- An operation that goes on with the value of another one, in the state which that one left. -/
def andThen (op : Operation ν ε σ α) (next : α → Operation ν ε σ β) : Operation ν ε σ β :=
  fun s =>
    match (op s).result with
    | .ok a =>
      let o := next a (op s).state
      ⟨(op s).notices ++ o.notices, o.result, o.state⟩
    | .error e => ⟨(op s).notices, .error e, (op s).state⟩

instance : Monad (Operation ν ε σ) where
  pure := ofValue
  bind := andThen

def fail (e : ε) : Operation ν ε σ α :=
  fun s => ⟨[], .error e, s⟩

/-- Looks at the state. -/
def look : Operation ν ε σ σ :=
  fun s => ⟨[], .ok s, s⟩

def change (f : σ → σ) : Operation ν ε σ Unit :=
  fun s => ⟨[], .ok (), f s⟩

/-- Notices something. -/
def tell (n : ν) : Operation ν ε σ Unit :=
  fun s => ⟨[n], .ok (), s⟩

/-- A conversion has no state to change. -/
def ofReport (r : Report α) : Operation Notice ConversionError σ α :=
  fun s => ⟨r.notices, r.result, s⟩

end Operation

end DiagramBridge
