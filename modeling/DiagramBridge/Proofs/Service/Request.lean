import DiagramBridge.Service.Request
import Mathlib.Tactic.SplitIfs

/-!
# What is read of a request

A body that is read, and the fields in it, are refused for what they are, and never as something
that is not there. A loose half in a document is a private character, so a document that has one is
not blank.
-/

namespace DiagramBridge.Service

open Text

/-- Refusals of all kinds but those of things that are not there. -/
def IsAboutContent (e : Refusal) : Prop :=
  e.status ≠ 404

instance (e : Refusal) : Decidable (IsAboutContent e) :=
  inferInstanceAs (Decidable (e.status ≠ 404))

theorem isAboutContent_conversion (e : ConversionError) : IsAboutContent (.conversion e) := by
  rw [IsAboutContent, Refusal.status]
  split_ifs
  · decide
  · decide

theorem isAboutContent_failure : IsAboutContent .failure := by
  decide

variable {α β : Type}

/-! ## Errors of conversions -/

theorem isAboutContent_of_ofError {c : ConversionError} {e : Refusal}
    (h : (Reply.ofError c : Reply α).result = .error e) : IsAboutContent e := by
  rw [Reply.ofError] at h
  split_ifs at h
  · rw [← Except.error.inj h]
    exact isAboutContent_failure
  · rw [← Except.error.inj h]
    exact isAboutContent_conversion c

theorem exists_error_of_ofReport {r : Report α} {e : Refusal}
    (h : (Reply.ofReport r).result = .error e) :
    ∃ c, r.result = .error c ∧ (Reply.ofError c : Reply α).result = .error e := by
  rw [Reply.ofReport] at h
  cases hr : r.result with
  | ok a =>
      rw [hr] at h
      exact absurd h (by simp)
  | error c =>
      rw [hr] at h
      exact ⟨c, rfl, h⟩

/-! ## Bodies -/

theorem Reply.result_bind_of_ok {r : Reply α} {a : α} (h : r.result = .ok a) (next : α → Reply β) :
    (r >>= next).result = (next a).result := by
  change (r.andThen next).result = _
  rw [Reply.andThen, h]

theorem Reply.result_bind_of_error {r : Reply α} {e : Refusal} (h : r.result = .error e)
    (next : α → Reply β) : (r >>= next).result = .error e := by
  change (r.andThen next).result = _
  rw [Reply.andThen, h]

theorem Reply.result_bind_eq_ok_iff {r : Reply α} {next : α → Reply β} {b : β} :
    (r >>= next).result = .ok b ↔ ∃ a, r.result = .ok a ∧ (next a).result = .ok b := by
  cases hr : r.result with
  | ok a =>
      rw [Reply.result_bind_of_ok hr]
      simp
  | error e =>
      rw [Reply.result_bind_of_error hr]
      simp

theorem Reply.result_bind_eq_error_iff {r : Reply α} {next : α → Reply β} {e : Refusal} :
    (r >>= next).result = .error e ↔
      r.result = .error e ∨ ∃ a, r.result = .ok a ∧ (next a).result = .error e := by
  cases hr : r.result with
  | ok a =>
      rw [Reply.result_bind_of_ok hr]
      simp
  | error e =>
      rw [Reply.result_bind_of_error hr]
      simp

theorem isAboutContent_of_readBody {body : String} {e : Refusal}
    (h : (readBody body).result = .error e) : IsAboutContent e := by
  rw [readBody] at h
  split at h
  · rw [← Except.error.inj h]
    decide
  · exact absurd h (by simp [Reply.ofValue])
  · rw [← Except.error.inj h]
    decide

theorem isAboutContent_of_readOptionalBody {body : String} {e : Refusal}
    (h : (readOptionalBody body).result = .error e) : IsAboutContent e := by
  rw [readOptionalBody] at h
  split_ifs at h
  · exact absurd h (by simp [Reply.ofValue])
  · exact isAboutContent_of_readBody h

theorem isAboutContent_of_document {fields : Fields} {name : String} {e : Refusal}
    (h : (document fields name).result = .error e) : IsAboutContent e := by
  rw [document] at h
  split at h
  · exact absurd h (by simp [Reply.ofValue])
  · exact absurd h (by simp [Reply.ofValue])
  · rw [← Except.error.inj h]
    exact isAboutContent_failure

theorem isAboutContent_of_readDocument {body name : String} {e : Refusal}
    (h : (readDocument body name).result = .error e) : IsAboutContent e := by
  rcases Reply.result_bind_eq_error_iff.1 h with hbody | ⟨fields, -, hdocument⟩
  · exact isAboutContent_of_readBody hbody
  · exact isAboutContent_of_document hdocument

theorem isAboutContent_of_pageIndexOf {value : Json} {e : Refusal}
    (h : pageIndexOf value = .error e) : IsAboutContent e := by
  have hinteger : IsAboutContent .pageNotInteger := by decide
  cases value with
  | bool b => exact absurd h (by simp [pageIndexOf])
  | int n => exact absurd h (by simp [pageIndexOf])
  | real x =>
      rw [pageIndexOf] at h
      cases hx : x.truncate? with
      | some n =>
          rw [hx] at h
          exact absurd h (by simp)
      | none =>
          rw [hx] at h
          rw [← Except.error.inj h]
          split_ifs
          · exact hinteger
          · exact isAboutContent_failure
  | str s =>
      rw [pageIndexOf] at h
      cases hs : Numeral.readInt? s.toList with
      | some n =>
          rw [hs] at h
          exact absurd h (by simp)
      | none =>
          rw [hs] at h
          rwa [← Except.error.inj h]
  | null => rwa [← Except.error.inj h]
  | arr items => rwa [← Except.error.inj h]
  | obj fields => rwa [← Except.error.inj h]

theorem isAboutContent_of_pageIndex {fields : Fields} {name : String} {e : Refusal}
    (h : (pageIndex fields name).result = .error e) : IsAboutContent e := by
  rw [pageIndex] at h
  split at h
  · exact absurd h (by simp [Reply.ofValue])
  · exact isAboutContent_of_pageIndexOf h

theorem isAboutContent_of_options {settings : Settings} {fields : Fields} {e : Refusal}
    (h : (options settings fields).result = .error e) : IsAboutContent e := by
  rw [options] at h
  split at h
  · exact absurd h (by simp [Reply.ofValue])
  · rw [refuseOptions] at h
    split_ifs at h
    · exact isAboutContent_of_ofError h
    · rw [← Except.error.inj h]
      exact isAboutContent_failure

/-! ## Loose halves -/

theorem isBlank_of_isPrivate {c : Char} (h : 0xF0000 ≤ c.toNat) : isBlank c = false := by
  simp only [isBlank, Bool.or_eq_false_iff, Bool.and_eq_false_iff, decide_eq_false_iff_not,
    beq_eq_false_iff_ne]
  omega

theorem le_of_isInBlock {block : Nat} (h : 0xF0000 ≤ block) {c : Char}
    (hc : isInBlock block c = true) : 0xF0000 ≤ c.toNat := by
  rw [isInBlock, Bool.and_eq_true, decide_eq_true_eq] at hc
  exact Nat.le_trans h hc.1

theorem le_freeBlock (s : List Char) : 0xF0000 ≤ Json.freeBlock s := by
  rw [Json.freeBlock]
  cases hfind : halfBlocks.find? fun block => !(Json.charactersOf s).any (isInBlock block) with
  | none => simp
  | some block =>
      obtain ⟨i, -, rfl⟩ := List.mem_map.1 (List.mem_of_find?_eq_some hfind)
      exact Nat.le_add_right 0xF0000 (halfCount * i)

theorem le_of_readLoose? {text : String} {j : Json} {block : Nat}
    (h : Json.readLoose? text = some (j, block)) : 0xF0000 ≤ block := by
  rw [Json.readLoose?, Option.map_eq_some_iff] at h
  obtain ⟨j', -, hpair⟩ := h
  rw [← (Prod.mk.inj hpair).2]
  exact le_freeBlock _

theorem le_block_of_readBody {body : String} {fields : Fields}
    (h : (readBody body).result = .ok fields) : 0xF0000 ≤ fields.block := by
  rw [readBody] at h
  split at h
  · exact absurd h (by simp [Reply.refuse])
  · next hread =>
    rw [← Except.ok.inj h]
    exact le_of_readLoose? hread
  · exact absurd h (by simp [Reply.refuse])

theorem isWhole_ofBlock_eq_false_iff {block : Nat} {s : String} :
    (LooseText.ofBlock block s).isWhole = false ↔ ∃ c ∈ s.toList, isInBlock block c = true := by
  rw [← List.any_eq_true, LooseText.isWhole, LooseText.ofBlock]
  cases s.toList.any (isInBlock block) with
  | true => simp
  | false => simp

/-- A document with a loose half in it is the text of a field. -/
theorem exists_isInBlock_of_document {fields : Fields} {name : String} {t : LooseText}
    (h : (document fields name).result = .ok t) (hloose : t.isWhole = false) :
    given? fields name = some (.str t.text) ∧
      ∃ c ∈ t.text.toList, isInBlock fields.block c = true := by
  rw [document] at h
  split at h
  · rw [← Except.ok.inj h] at hloose
    exact absurd hloose (by decide)
  · next s hs =>
    rw [← Except.ok.inj h] at hloose ⊢
    exact ⟨hs, isWhole_ofBlock_eq_false_iff.1 hloose⟩
  · exact absurd h (by simp [Reply.refuse])

/-- A document with a loose half in it is not blank. -/
theorem exists_not_isBlank_of_readDocument {body name : String} {t : LooseText}
    (h : (readDocument body name).result = .ok t) (hloose : t.isWhole = false) :
    ∃ c ∈ t.text.toList, isBlank c = false := by
  obtain ⟨fields, hfields, hdocument⟩ := Reply.result_bind_eq_ok_iff.1 h
  obtain ⟨-, c, hc, hblock⟩ := exists_isInBlock_of_document hdocument hloose
  exact ⟨c, hc, isBlank_of_isPrivate (le_of_isInBlock (le_block_of_readBody hfields) hblock)⟩

end DiagramBridge.Service
