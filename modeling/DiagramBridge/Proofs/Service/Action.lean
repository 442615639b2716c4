import DiagramBridge.Proofs.Conversion.Session
import DiagramBridge.Proofs.Service.Request
import DiagramBridge.Service.Handler

/-!
# Actions on a session

A request about a session reads its body first, then does one thing to the session, and then shows
something. It is refused for its body or for a conversion, but never as something that is not there.

An action is all or nothing like the operation in its middle, as long as nothing fails behind that.
Only the action that loads a Mermaid text shows what it was given: a text with loose halves is kept,
and then it cannot be sent (`act_loadMermaid_of_loose`). No other action is refused after a change.
-/

namespace DiagramBridge.Service

open Operation

variable {σ α β : Type}

/-! ## Single steps of an action -/

theorem isReading_ofReply (r : Reply α) : IsReading (Action.ofReply r : Action σ α) :=
  fun _ => rfl

theorem failsOnly_ofReply {r : Reply α} (h : ∀ e, r.result = .error e → IsAboutContent e) :
    FailsOnly IsAboutContent (Action.ofReply r : Action σ α) :=
  fun _ e he => h e he

theorem failsOnly_ofOperation (op : Operation Notice ConversionError σ α) :
    FailsOnly IsAboutContent (Action.ofOperation op) := by
  intro s e he
  obtain ⟨c, -, hc⟩ := exists_error_of_ofReport he
  exact isAboutContent_of_ofError hc

theorem isAtomic_ofOperation {op : Operation Notice ConversionError σ α} (h : IsAtomic op) :
    IsAtomic (Action.ofOperation op) := by
  intro s e he
  obtain ⟨c, hc, -⟩ := exists_error_of_ofReport he
  exact h s c hc

theorem isReading_display (id : String) : IsReading (display id) := by
  intro s
  rw [display, look_bind]
  split_ifs
  · rfl
  · rfl

theorem failsOnly_display (id : String) : FailsOnly IsAboutContent (display id) := by
  intro s e he
  rw [display, look_bind] at he
  split_ifs at he
  · exact absurd he (by simp)
  · rw [← Except.error.inj he]
    exact isAboutContent_failure

/-! ## Actions -/

/-- The action is all or nothing, and what it is refused for is in the request. -/
structure IsOrderly (a : Action σ α) : Prop where
  atomic : IsAtomic a
  failsOnly : FailsOnly IsAboutContent a

/-- The body is read first. -/
theorem IsOrderly.ofReply_bind {r : Reply α} {next : α → Action σ β}
    (h : ∀ e, r.result = .error e → IsAboutContent e) (hnext : ∀ a, IsOrderly (next a)) :
    IsOrderly (.ofReply r >>= next : Action σ β) where
  atomic := (isReading_ofReply r).bind_isAtomic fun a => (hnext a).atomic
  failsOnly := (failsOnly_ofReply h).bind fun a => (hnext a).failsOnly

/-- Nothing fails behind the operation. -/
theorem IsOrderly.ofOperation_bind {op : Operation Notice ConversionError σ α}
    {next : α → Action σ β} (h : IsAtomic op) (hnext : ∀ a, IsSure (next a)) :
    IsOrderly (.ofOperation op >>= next : Action σ β) where
  atomic := (isAtomic_ofOperation h).bind_isSure hnext
  failsOnly := (failsOnly_ofOperation op).bind fun a => (hnext a).failsOnly _

theorem isOrderly_act (settings : Settings) (id body : String) {action : SessionAction}
    (h : action ≠ .loadMermaid) : IsOrderly (act settings id body action) := by
  cases action with
  | loadDrawing =>
      apply IsOrderly.ofReply_bind fun _ => isAboutContent_of_readDocument
      intro drawing
      apply IsOrderly.ofOperation_bind
      · exact Session.isAtomic_of_settles (Session.settles_loadDrawing drawing)
      · exact fun _ => isSure_pure _
  | loadMermaid => exact absurd rfl h
  | selectPage =>
      apply IsOrderly.ofReply_bind fun _ => isAboutContent_of_readBody
      intro fields
      apply IsOrderly.ofReply_bind fun _ => isAboutContent_of_pageIndex
      intro index
      apply IsOrderly.ofOperation_bind
      · exact Session.isAtomic_of_settles (Session.settles_selectPage index)
      · exact fun _ => isSure_pure _
  | toMermaid =>
      apply IsOrderly.ofReply_bind fun _ => isAboutContent_of_readOptionalBody
      intro fields
      apply IsOrderly.ofReply_bind fun _ => isAboutContent_of_options
      intro options
      apply IsOrderly.ofOperation_bind
      · exact Session.isAtomic_of_settles (Session.settles_toMermaid options)
      · exact fun _ => isSure_pure _
  | toDrawing =>
      apply IsOrderly.ofReply_bind fun _ => isAboutContent_of_readOptionalBody
      intro fields
      apply IsOrderly.ofOperation_bind
      · exact Session.isAtomic_of_settles (Session.settles_toDrawing (switch fields "compress"))
      · exact fun _ => isSure_look_bind_pure _

/-! ## Loading a Mermaid text -/

section LoadMermaid

variable {settings : Settings} {id body : String} {s : Session} {m : LooseText}

/-- A Mermaid text that is not blank is loaded, and then the session is shown. -/
theorem act_loadMermaid (settings : Settings) (id : String) (s : Session)
    (hm : (readDocument body "mermaid").result = .ok m)
    (hblank : Session.isBlankText m = false) :
    (act settings id body .loadMermaid s).result =
        (display id { s with mermaid := some m }).result ∧
      (act settings id body .loadMermaid s).state = { s with mermaid := some m } := by
  have hread : (Action.ofReply (readDocument body "mermaid") s).result = .ok m := hm
  have hload : Action.ofOperation (Session.loadMermaid m) s =
      ⟨[], .ok (), { s with mermaid := some m }⟩ := by
    rw [Session.loadMermaid, if_neg (by simp [hblank])]
    rfl
  have hshown : (Action.ofOperation (Session.loadMermaid m) >>= fun _ => display id) s =
      display id { s with mermaid := some m } := by
    rw [bind_eq_of_ok (by rw [hload]), hload]
    rfl
  rw [act, bind_eq_of_ok hread, isReading_ofReply, hshown]
  exact ⟨rfl, isReading_display id _⟩

/-- A text with loose halves is kept, and the answer that is to show it is not sent. -/
theorem act_loadMermaid_of_loose (settings : Settings) (id : String) (s : Session)
    (hm : (readDocument body "mermaid").result = .ok m) (hloose : m.isWhole = false) :
    (act settings id body .loadMermaid s).result = .error .failure ∧
      (act settings id body .loadMermaid s).state = { s with mermaid := some m } := by
  obtain ⟨c, hc, hcblank⟩ := exists_not_isBlank_of_readDocument hm hloose
  have hblank : Session.isBlankText m = false :=
    List.all_eq_false.2 ⟨c, hc, by simp [hcblank]⟩
  obtain ⟨hresult, hstate⟩ := act_loadMermaid settings id s hm hblank
  refine ⟨?_, hstate⟩
  rw [hresult, display, look_bind, if_neg (by simp [Session.isSendable, hloose])]
  rfl

/-- A load that is refused and has changed the session was that of a text with loose halves. -/
theorem state_act_loadMermaid_of_error {e : Refusal}
    (he : (act settings id body .loadMermaid s).result = .error e) :
    (act settings id body .loadMermaid s).state = s ∨
      ∃ m, (readDocument body "mermaid").result = .ok m ∧ m.isWhole = false := by
  cases hm : (readDocument body "mermaid").result with
  | error e' =>
      have hread : (Action.ofReply (readDocument body "mermaid") s).result = .error e' := hm
      left
      rw [act, bind_eq_of_error hread]
      rfl
  | ok m =>
      have hread : (Action.ofReply (readDocument body "mermaid") s).result = .ok m := hm
      cases hblank : Session.isBlankText m with
      | true =>
          left
          rw [act, bind_eq_of_ok hread, Session.loadMermaid, if_pos hblank]
          rfl
      | false =>
          right
          refine ⟨m, rfl, ?_⟩
          rw [(act_loadMermaid settings id s hm hblank).1, display, look_bind] at he
          split_ifs at he with hsendable
          · exact absurd he (by simp)
          · simpa [Session.isSendable] using hsendable

end LoadMermaid

theorem failsOnly_act (settings : Settings) (id body : String) (action : SessionAction) :
    FailsOnly IsAboutContent (act settings id body action) := by
  by_cases h : action = .loadMermaid
  · rw [h]
    apply (failsOnly_ofReply fun _ => isAboutContent_of_readDocument).bind
    intro mermaid
    apply (failsOnly_ofOperation (Session.loadMermaid mermaid)).bind
    exact fun _ => failsOnly_display id
  · exact (isOrderly_act settings id body h).failsOnly

end DiagramBridge.Service
