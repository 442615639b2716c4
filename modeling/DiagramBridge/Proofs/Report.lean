import DiagramBridge.Report

/-!
# Results and notices of reports

What is told on the way does not change the result, and a step that tells nothing adds nothing to
what is told. What the errors of two steps have in common, the errors of one behind the other have.
-/

namespace DiagramBridge.Report

/-- The result of two steps, one after the other, is that of their results. -/
theorem result_bind {α β : Type} (r : Report α) (next : α → Report β) :
    (r >>= next).result = r.result.bind fun a => (next a).result := by
  change (r.andThen next).result = _
  rw [Report.andThen]
  cases r.result <;> rfl

theorem result_bind_of_ok {α β : Type} {r : Report α} {a : α} (h : r.result = .ok a)
    (next : α → Report β) : (r >>= next).result = (next a).result := by
  change (r.andThen next).result = _
  rw [Report.andThen, h]

theorem result_bind_eq_ok_iff {α β : Type} {r : Report α} {next : α → Report β} {b : β} :
    (r >>= next).result = .ok b ↔ ∃ a, r.result = .ok a ∧ (next a).result = .ok b := by
  constructor
  · intro h
    cases hr : r.result with
    | error e =>
      change (r.andThen next).result = _ at h
      rw [Report.andThen, hr] at h
      exact absurd h (by simp)
    | ok a => exact ⟨a, rfl, by rwa [result_bind_of_ok hr] at h⟩
  · rintro ⟨a, ha, hb⟩
    rw [result_bind_of_ok ha, hb]

theorem result_tell_bind {β : Type} (n : Notice) (next : Unit → Report β) :
    (Report.tell n >>= next).result = (next ()).result :=
  result_bind_of_ok rfl next

theorem result_tellIf_bind {β : Type} (condition : Bool) (n : Notice)
    (next : Unit → Report β) : (Report.tellIf condition n >>= next).result = (next ()).result := by
  cases condition <;> exact result_bind_of_ok rfl next

theorem result_ofExcept {α : Type} (x : Except ConversionError α) : (ofExcept x).result = x := rfl

theorem notices_bind_eq_nil {α β : Type} {r : Report α} {next : α → Report β}
    (h : r.notices = []) (hnext : ∀ a, r.result = .ok a → (next a).notices = []) :
    (r >>= next).notices = [] := by
  change (r.andThen next).notices = _
  rw [Report.andThen]
  cases hr : r.result with
  | error e => exact h
  | ok a =>
      change r.notices ++ (next a).notices = []
      rw [h, hnext a hr, List.nil_append]

theorem mem_notices_bind {α β : Type} {r : Report α} {next : α → Report β} {n : Notice}
    (h : n ∈ (r >>= next).notices) : n ∈ r.notices ∨ ∃ a, n ∈ (next a).notices := by
  change n ∈ (r.andThen next).notices at h
  rw [Report.andThen] at h
  cases hr : r.result with
  | error e =>
      rw [hr] at h
      exact .inl h
  | ok a =>
      rw [hr] at h
      exact (List.mem_append.1 h).imp id fun hn => ⟨a, hn⟩

theorem eq_of_mem_notices_tellIf {condition : Bool} {m n : Notice}
    (h : n ∈ (tellIf condition m).notices) : n = m := by
  cases condition with
  | false => exact absurd h List.not_mem_nil
  | true => exact List.mem_singleton.1 h

/-! ## Errors -/

/-- The conversion ends with no other errors than those of a certain kind. -/
def FailsOnly {α : Type} (p : ConversionError → Prop) (r : Report α) : Prop :=
  ∀ e, r.result = .error e → p e

section FailsOnly

variable {α β : Type} {p : ConversionError → Prop}

theorem FailsOnly.of_ok {r : Report α} {a : α} (h : r.result = .ok a) : r.FailsOnly p := by
  intro e he
  rw [h] at he
  exact absurd he (by simp)

theorem FailsOnly.of_error {r : Report α} {c : ConversionError} (h : r.result = .error c)
    (hc : p c) : r.FailsOnly p := by
  intro e he
  rw [h] at he
  rwa [← Except.error.inj he]

theorem failsOnly_tell (n : Notice) : (tell n).FailsOnly p :=
  .of_ok rfl

theorem failsOnly_ofExcept {x : Except ConversionError α} (h : ∀ e, x = .error e → p e) :
    (ofExcept x).FailsOnly p :=
  h

theorem FailsOnly.bind {r : Report α} {next : α → Report β} (h : r.FailsOnly p)
    (hnext : ∀ a, (next a).FailsOnly p) : (r >>= next).FailsOnly p := by
  intro e he
  rw [result_bind] at he
  cases hr : r.result with
  | error c =>
      rw [hr] at he
      rw [← Except.error.inj he]
      exact h c hr
  | ok a =>
      rw [hr] at he
      exact hnext a e he

end FailsOnly

end DiagramBridge.Report
