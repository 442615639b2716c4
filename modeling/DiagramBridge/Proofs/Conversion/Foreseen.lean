import DiagramBridge.Conversion.Session
import DiagramBridge.Proofs.Conversion.Pipeline
import DiagramBridge.Proofs.Operation
import DiagramBridge.Proofs.Text.Case

/-!
# Foreseen errors

Nothing that is wrong with a drawing or with the options is an error of the codec: whatever is read
is a text of characters, and such a text can be encoded. So a conversion to Mermaid ends with an
error that is not foreseen only if the drawing has a loose half in it.
-/

namespace DiagramBridge

open Text

namespace ConversionError

/-- The error is one that people are told about, and no error of the codec. -/
def IsForeseen (e : ConversionError) : Prop :=
  e.family ≠ .encoding

instance (e : ConversionError) : Decidable e.IsForeseen :=
  inferInstanceAs (Decidable (e.family ≠ .encoding))

end ConversionError

open ConversionError

namespace Drawio

/-! ## Reading a drawing -/

theorem isForeseen_of_parseMarkup {s : List Char} {e : ConversionError}
    (h : parseMarkup s = .error e) : e.IsForeseen := by
  rw [parseMarkup] at h
  split at h
  · exact absurd h (by simp)
  · rw [← Except.error.inj h]
    decide

theorem isForeseen_of_decode {payload : List Char} {e : ConversionError}
    (h : Payload.decode payload = .error e) : e.IsForeseen := by
  rw [Payload.decode] at h
  split_ifs at h
  · rw [← Except.error.inj h]
    decide
  split at h
  · rw [← Except.error.inj h]
    decide
  split at h
  · exact absurd h (by simp)
  split at h
  · exact absurd h (by simp)
  · rw [← Except.error.inj h]
    decide

theorem isForeseen_of_modelOf {page : Xml.Element} {e : ConversionError}
    (h : modelOf page = .error e) : e.IsForeseen := by
  rw [modelOf] at h
  split at h
  · exact absurd h (by simp)
  split at h
  · exact absurd h (by simp)
  · exact isForeseen_of_parseMarkup h
  · cases hpayload : Payload.decode (trim page.text.toList) with
    | error c =>
        rw [hpayload] at h
        rw [← Except.error.inj h]
        exact isForeseen_of_decode hpayload
    | ok s =>
        rw [hpayload] at h
        exact isForeseen_of_parseMarkup h

theorem failsOnly_selectAmong (first : Xml.Element) (others : List Xml.Element) (index : Int) :
    (selectAmong first others index).FailsOnly IsForeseen := by
  rw [selectAmong]
  split
  · exact (Report.failsOnly_ofExcept fun _ => isForeseen_of_modelOf).bind fun _ => .of_ok rfl
  · refine Report.FailsOnly.bind (Report.failsOnly_tell _) fun _ => ?_
    exact (Report.failsOnly_ofExcept fun _ => isForeseen_of_modelOf).bind fun _ => .of_ok rfl

theorem failsOnly_select (content : List Char) (index : Int) :
    (select content index).FailsOnly IsForeseen := by
  apply (Report.failsOnly_ofExcept fun _ => isForeseen_of_parseMarkup).bind
  intro root
  split_ifs
  · exact .of_ok rfl
  · split
    · exact .of_ok rfl
    · exact failsOnly_selectAmong _ _ index

theorem failsOnly_read (content : String) (index : Int) :
    (read content index).FailsOnly IsForeseen := by
  rw [read]
  dsimp only
  split_ifs
  · exact .of_error rfl (by decide)
  · apply Report.FailsOnly.bind (failsOnly_select _ index)
    intro selection
    split_ifs
    · exact .of_error rfl (by decide)
    · exact .of_ok rfl

end Drawio

/-! ## Conversions -/

theorem failsOnly_toMermaid (drawing : String) (options : Options) (pageIndex : Int) :
    (toMermaid drawing options pageIndex).FailsOnly IsForeseen := by
  apply Report.FailsOnly.bind (Drawio.failsOnly_read drawing pageIndex)
  intro page
  refine Report.FailsOnly.bind (Report.failsOnly_tell _) fun _ => ?_
  apply Report.FailsOnly.of_ok
  rw [Report.result_tellIf_bind]
  rfl

theorem LooseText.failsOnly_toMermaid {d : LooseText} (h : d.isWhole = true) (options : Options)
    (pageIndex : Int) : (d.toMermaid options pageIndex).FailsOnly IsForeseen := by
  rw [LooseText.toMermaid, if_pos h]
  exact DiagramBridge.failsOnly_toMermaid d.text options pageIndex

/-- Selecting a page is refused for the page or for want of a drawing. -/
theorem Session.failsOnly_selectPage (index : Int) :
    Operation.FailsOnly IsForeseen (Session.selectPage index) := by
  intro s e he
  rw [selectPage, Operation.look_bind] at he
  split_ifs at he
  · rw [← Except.error.inj he]
    decide
  cases hpage : s.page? index with
  | some page =>
      rw [hpage] at he
      exact absurd he (by simp)
  | none =>
      rw [hpage] at he
      rw [← Except.error.inj he]
      exact fun hfamily => absurd hfamily (by simp [family])

/-! ## Refused options -/

/-- The characters of what is said around the words are no private ones. -/
theorem mem_of_mem_message {word : String} {c : Char} (hc : firstPrivate ≤ c.toNat)
    {front back : String} (hfront : ∀ d ∈ front.toList, d.toNat < firstPrivate)
    (hback : ∀ d ∈ back.toList, d.toNat < firstPrivate)
    (hmem : c ∈ (front ++ word ++ back).toList) : c ∈ word.toList := by
  rw [String.toList_append, String.toList_append, List.mem_append, List.mem_append] at hmem
  rcases hmem with (hmem | hmem) | hmem
  · exact absurd (hfront c hmem) (Nat.not_lt.2 hc)
  · exact hmem
  · exact absurd (hback c hmem) (Nat.not_lt.2 hc)

theorem isForeseen_of_ofWords {direction type : String} {e : ConversionError}
    (h : Options.ofWords direction type = .error e) : e.IsForeseen := by
  rw [Options.ofWords] at h
  split at h
  · exact absurd h (by simp)
  · rw [← Except.error.inj h]
    exact fun hfamily => absurd hfamily (by simp [family])
  · rw [← Except.error.inj h]
    exact fun hfamily => absurd hfamily (by simp [family])

/-- A private character of a refusal of options was in the words that were given. -/
theorem mem_of_mem_message_ofWords {direction type : String} {e : ConversionError}
    (h : Options.ofWords direction type = .error e) {c : Char} (hc : firstPrivate ≤ c.toNat)
    (hmem : c ∈ e.message.toList) : c ∈ direction.toList ∨ c ∈ type.toList := by
  rw [Options.ofWords] at h
  split at h
  · exact absurd h (by simp)
  · rw [← Except.error.inj h] at hmem
    have hword : c ∈ (onChars upper direction).toList :=
      mem_of_mem_message hc (by decide +kernel) (by decide +kernel) hmem
    rw [toList_onChars] at hword
    exact .inl (mem_of_mem_upper hc hword)
  · rw [← Except.error.inj h] at hmem
    have hword : c ∈ (onChars lower type).toList :=
      mem_of_mem_message hc (by decide +kernel) (by decide +kernel) hmem
    rw [toList_onChars] at hword
    exact .inr (mem_of_mem_lower hc hword)

end DiagramBridge
