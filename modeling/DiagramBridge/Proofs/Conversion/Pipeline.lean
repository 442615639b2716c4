import DiagramBridge.Conversion.Loose
import DiagramBridge.Conversion.Pipeline
import DiagramBridge.Proofs.Report
import Mathlib.Tactic.SplitIfs

/-!
# Results of conversions

The result of a conversion is that of reading followed by that of writing, whatever is told on the
way. A text of characters is converted as such, and a loose text whose conversion succeeds, or whose
pages are listed, gives what its characters and private characters give.
-/

namespace DiagramBridge

/-- A drawing is made of every Mermaid text that is read. -/
theorem result_toDrawing {text : String} {d : Mermaid.Diagram} (h : Mermaid.read text = .ok d)
    (compress : Bool) : (toDrawing text compress).result =
      .ok (Drawio.write d.graph compress Drawio.defaultPageName) := by
  have hread : (Report.ofExcept (Mermaid.read text)).result = .ok d := h
  rw [toDrawing, Report.result_bind_of_ok hread, Report.result_tell_bind]
  rfl

theorem result_toDrawingData {text drawing : String}
    (h : (toDrawing text false).result = .ok drawing) :
    (toDrawingData text).result = .ok ⟨drawing, Text.onChars Codec.Percent.encode drawing⟩ := by
  rw [toDrawingData, Report.result_bind_of_ok h]
  rfl

/-- A Mermaid text is made of every page that is read. -/
theorem result_toMermaid {drawing : String} {pageIndex : Int} {page : Drawio.Reading}
    (h : (Drawio.read drawing pageIndex).result = .ok page) (options : Options) :
    (toMermaid drawing options pageIndex).result = .ok
      { mermaid :=
          Mermaid.write page.graph (options.type.resolve page.graph) options.direction
        type := options.type.resolve page.graph
        pageIndex := page.pageIndex
        pageCount := page.pageCount } := by
  rw [toMermaid, Report.result_bind_of_ok h, Report.result_tell_bind, Report.result_tellIf_bind]
  rfl

theorem exists_read_of_toMermaid {drawing : String} {options : Options} {pageIndex : Int}
    {m : MermaidResult} (h : (toMermaid drawing options pageIndex).result = .ok m) :
    ∃ page, (Drawio.read drawing pageIndex).result = .ok page ∧ m.pageIndex = page.pageIndex ∧
      m.pageCount = page.pageCount := by
  have hbind := h
  rw [toMermaid, Report.result_bind_eq_ok_iff] at hbind
  obtain ⟨page, hpage, -⟩ := hbind
  rw [result_toMermaid hpage] at h
  rw [← Except.ok.inj h]
  exact ⟨page, hpage, rfl, rfl⟩

/-- A page that is not there is noticed when the drawing is read. -/
theorem mem_notices_read_of_toMermaid {drawing : String} {options : Options} {pageIndex index : Int}
    {count : Nat}
    (h : .pageOutOfRange index count ∈ (toMermaid drawing options pageIndex).notices) :
    .pageOutOfRange index count ∈ (Drawio.read drawing pageIndex).notices := by
  rcases Report.mem_notices_bind h with hread | ⟨page, hpage⟩
  · exact hread
  · rcases Report.mem_notices_bind hpage with htold | ⟨-, hrest⟩
    · exact absurd (List.mem_singleton.1 htold) (by simp [extractedNotice])
    · rcases Report.mem_notices_bind hrest with htold | ⟨-, hend⟩
      · exact absurd (Report.eq_of_mem_notices_tellIf htold) (by simp)
      · exact absurd hend List.not_mem_nil

namespace LooseText

/-! ## Texts of characters -/

theorem toDrawing_ofString (s : String) (compress : Bool) :
    (ofString s).toDrawing compress = DiagramBridge.toDrawing s compress := by
  cases h : Mermaid.read s with
  | error e =>
      simp only [toDrawing, ofString, DiagramBridge.toDrawing, h]
      rfl
  | ok d =>
      simp only [toDrawing, ofString, DiagramBridge.toDrawing, h]
      cases compress with
      | false => rfl
      | true => rfl

theorem toDrawingData_ofString (s : String) :
    (ofString s).toDrawingData = DiagramBridge.toDrawingData s := by
  rw [toDrawingData, toDrawing_ofString]
  rfl

theorem pages_ofString (s : String) : (ofString s).pages = Drawio.pages s := rfl

/-! ## Loose texts -/

variable {d : LooseText}

theorem pages_text_of_pages {pages : List Drawio.Page} (h : d.pages = .ok pages) :
    Drawio.pages d.text = .ok pages := by
  rw [LooseText.pages] at h
  split_ifs at h
  exact h

theorem result_text_of_toMermaid {options : Options} {index : Int} {m : MermaidResult}
    (h : (d.toMermaid options index).result = .ok m) :
    (DiagramBridge.toMermaid d.text options index).result = .ok m := by
  rw [toMermaid] at h
  split_ifs at h
  · exact h
  · exact absurd h (by simp [Report.ofExcept])

theorem mem_notices_text_of_toMermaid {options : Options} {index : Int} {n : Notice}
    (h : n ∈ (d.toMermaid options index).notices) :
    n ∈ (DiagramBridge.toMermaid d.text options index).notices := by
  rw [toMermaid] at h
  split_ifs at h
  · exact h
  · exact absurd h List.not_mem_nil

end LooseText

end DiagramBridge
