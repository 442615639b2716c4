import DiagramBridge.Operation

/-!
# What operations leave behind

Since an error takes nothing back, an operation is all or nothing only if nothing is changed before
the last error. `IsAtomic` says so of an operation. It comes from its parts: those that only look
(`IsReading`) may stand in front of an atomic operation, and those that cannot fail (`IsSure`)
behind one. `FailsOnly` says which errors an operation can end with.
-/

namespace DiagramBridge.Operation

variable {ν ε σ α β : Type} {op : Operation ν ε σ α} {next : α → Operation ν ε σ β}

theorem bind_eq_of_ok {s : σ} {a : α} (h : (op s).result = .ok a) :
    (op >>= next) s = ⟨(op s).notices ++ (next a (op s).state).notices,
      (next a (op s).state).result, (next a (op s).state).state⟩ := by
  change op.andThen next s = _
  rw [andThen, h]

theorem bind_eq_of_error {s : σ} {e : ε} (h : (op s).result = .error e) :
    (op >>= next) s = ⟨(op s).notices, .error e, (op s).state⟩ := by
  change op.andThen next s = _
  rw [andThen, h]

theorem mem_notices_bind {s : σ} {n : ν} (h : n ∈ ((op >>= next) s).notices) :
    n ∈ (op s).notices ∨ ∃ a, n ∈ (next a (op s).state).notices := by
  cases hop : (op s).result with
  | error e =>
      rw [bind_eq_of_error hop] at h
      exact .inl h
  | ok a =>
      rw [bind_eq_of_ok hop] at h
      exact (List.mem_append.1 h).imp id fun hn => ⟨a, hn⟩

theorem result_bind_eq_ok_iff {s : σ} {b : β} :
    ((op >>= next) s).result = .ok b ↔
      ∃ a, (op s).result = .ok a ∧ (next a (op s).state).result = .ok b := by
  cases hop : (op s).result with
  | error e =>
      rw [bind_eq_of_error hop]
      simp
  | ok a =>
      rw [bind_eq_of_ok hop]
      simp

@[simp] theorem pure_apply (a : α) (s : σ) :
    (pure a : Operation ν ε σ α) s = ⟨[], .ok a, s⟩ := rfl

@[simp] theorem fail_apply (e : ε) (s : σ) : (fail e : Operation ν ε σ α) s = ⟨[], .error e, s⟩ :=
  rfl

@[simp] theorem look_bind (next : σ → Operation ν ε σ β) (s : σ) :
    (look >>= next) s = next s s := rfl

@[simp] theorem change_bind (f : σ → σ) (next : Unit → Operation ν ε σ β) (s : σ) :
    (change f >>= next) s = next () (f s) := rfl

/-- The operation leaves every state as it is. -/
def IsReading (op : Operation ν ε σ α) : Prop :=
  ∀ s, (op s).state = s

/-- The operation ends with a value. -/
def IsSure (op : Operation ν ε σ α) : Prop :=
  ∀ s, ∃ a, (op s).result = .ok a

/-- The operation leaves the state as it is when it ends with an error. -/
def IsAtomic (op : Operation ν ε σ α) : Prop :=
  ∀ s e, (op s).result = .error e → (op s).state = s

/-- The operation ends with no other errors than those of a certain kind. -/
def FailsOnly (p : ε → Prop) (op : Operation ν ε σ α) : Prop :=
  ∀ s e, (op s).result = .error e → p e

/-! ## Single steps -/

theorem isSure_pure (a : α) : IsSure (pure a : Operation ν ε σ α) :=
  fun _ => ⟨a, rfl⟩

/-- Nothing can go wrong when something is shown of the state. -/
theorem isSure_look_bind_pure (f : σ → α) :
    IsSure (look >>= fun s => pure (f s) : Operation ν ε σ α) :=
  fun s => ⟨f s, rfl⟩

theorem IsSure.failsOnly (h : IsSure op) (p : ε → Prop) : FailsOnly p op := by
  intro s e he
  obtain ⟨a, ha⟩ := h s
  rw [ha] at he
  exact absurd he (by simp)

/-! ## One operation behind another -/

theorem IsReading.bind_isAtomic (h : IsReading op) (hnext : ∀ a, IsAtomic (next a)) :
    IsAtomic (op >>= next) := by
  intro s e he
  cases hop : (op s).result with
  | error e' =>
      rw [bind_eq_of_error hop]
      exact h s
  | ok a =>
      rw [bind_eq_of_ok hop, h s] at he ⊢
      exact hnext a s e he

theorem IsAtomic.bind_isSure (h : IsAtomic op) (hnext : ∀ a, IsSure (next a)) :
    IsAtomic (op >>= next) := by
  intro s e he
  cases hop : (op s).result with
  | error e' =>
      rw [bind_eq_of_error hop]
      exact h s e' hop
  | ok a =>
      obtain ⟨b, hb⟩ := hnext a (op s).state
      rw [bind_eq_of_ok hop, hb] at he
      exact absurd he (by simp)

theorem FailsOnly.bind {p : ε → Prop} (h : FailsOnly p op) (hnext : ∀ a, FailsOnly p (next a)) :
    FailsOnly p (op >>= next) := by
  intro s e he
  cases hop : (op s).result with
  | error e' =>
      rw [bind_eq_of_error hop] at he
      rw [← Except.error.inj he]
      exact h s e' hop
  | ok a =>
      rw [bind_eq_of_ok hop] at he
      exact hnext a _ e he

end DiagramBridge.Operation
