import DiagramBridge.Proofs.Conversion.Session
import DiagramBridge.Proofs.Drawio.Compression
import DiagramBridge.Proofs.Mermaid.WellFormed

/-!
# Which conversions give documents

Every text of a graph that is read from Mermaid is shown in its drawing, character by character. So
a drawing that is kept as markup is a document if and only if these texts are legal, which they are
whenever the Mermaid text is; an illegal character that stands in a label, a member or an id goes
through. A compressed drawing is always a document. A session loads the drawings that it makes, and
so it fails on the others.
-/

namespace DiagramBridge

open Text Xml Drawio

/-! ## Graphs that are read -/

section

variable {text : String} {d : Mermaid.Diagram} (h : Mermaid.read text = .ok d)
include h

theorem isWhollyShown_of_read : IsWhollyShown d.graph := by
  have hread := Mermaid.isReadAs_of_read h
  refine ⟨hread.consists.validEdges_eq, fun e he => ?_, fun n hn hne => ?_⟩
  · exact isLegal_of_isWord (hread.consists.edges e he).id
  · have hnode := hread.consists.nodes n hn
    rw [hnode.kind, DiagramType.nodeKind_eq_classLike_iff]
    exact hnode.members hne

/-- Reading a legal text gives a graph with legal texts. -/
theorem hasLegalTexts_of_read (hlegal : IsLegal text) : HasLegalTexts d.graph := by
  have hmade : d.graph.IsMadeOf fun c => isXmlChar c = true :=
    (Mermaid.isMadeOf_of_read h).mono fun c hc => hc.elim (hlegal c) isXmlChar_of_isWord
  exact
    { ids := fun n hn => (hmade.nodes n hn).id
      labels := fun n hn => (hmade.nodes n hn).label
      members := fun n hn => (hmade.nodes n hn).members
      edgeIds := fun e he => (hmade.edges e he).id
      edgeLabels := fun e he => (hmade.edges e he).label }

end

/-! ## Drawings that are made -/

/-- A graph that can be drawn as a document: as a payload every graph can. -/
def IsDrawable (g : Graph) (compress : Bool) : Prop :=
  compress = true ∨ HasLegalTexts g

theorem pages_write_of_isDrawable {g : Graph} (hshown : IsWhollyShown g) {compress : Bool}
    (h : IsDrawable g compress) : pages (write g compress defaultPageName) = .ok drawnPages := by
  cases compress with
  | true => exact pages_write_true g
  | false =>
      have htexts : HasLegalTexts g := h.resolve_left (by simp)
      exact pages_write_false (hshown.all_hasLegalValues_iff.2 htexts)

theorem pages_write_of_not_isDrawable {g : Graph} (hshown : IsWhollyShown g) {compress : Bool}
    (h : ¬ IsDrawable g compress) :
    pages (write g compress defaultPageName) = .error .malformedMarkup := by
  cases compress with
  | true => exact absurd (.inl rfl) h
  | false =>
      exact pages_write_false_of_illegal fun hall =>
        h (.inr (hshown.all_hasLegalValues_iff.1 hall))

/-! ## Drawings that a session makes -/

namespace Session

theorem isBlankText_write (g : Graph) (compress : Bool) (name : String) :
    isBlankText (.ofString (write g compress name)) = false := by
  have hpage : ∃ page, write g compress name = (fileOfPage page).indented := by
    cases compress <;> exact ⟨_, rfl⟩
  obtain ⟨page, hpage⟩ := hpage
  obtain ⟨inner, htext⟩ := indentedText_fileOfPage page
  have hchars : (write g compress name).toList = "<mxfile".toList ++ inner ++ ['>'] := by
    rw [hpage, Element.indented, String.toList_ofList, htext]
  rw [isBlankText, LooseText.ofString, hchars]
  rfl

section

variable {text : String} {d : Mermaid.Diagram} (h : Mermaid.read text = .ok d) {s : Session}
  (hs : s.mermaid = some (.ofString text)) {compress : Bool}
include h hs

/-- A session loads a document that it makes. -/
theorem toDrawing_of_isDrawable (hdrawable : IsDrawable d.graph compress) :
    (toDrawing compress s).result = .ok (write d.graph compress defaultPageName) ∧
      (toDrawing compress s).state =
        { s with
          drawing := some (.ofString (write d.graph compress defaultPageName))
          pages := drawnPages
          pageIndex := 0 } := by
  have hpages := pages_write_of_isDrawable (isWhollyShown_of_read h) hdrawable
  obtain ⟨hresult, hstate⟩ := ending_toDrawing hs (result_toDrawing h compress)
  rw [hresult, hstate, loadDrawing_of_pages (isBlankText_write d.graph compress defaultPageName)
    ((LooseText.pages_ofString _).trans hpages)]
  exact ⟨rfl, rfl⟩

/-- It fails on another drawing, and nothing is loaded. -/
theorem toDrawing_of_not_isDrawable (hdrawable : ¬ IsDrawable d.graph compress) :
    (toDrawing compress s).result = .error .malformedMarkup ∧ (toDrawing compress s).state = s := by
  have hpages := pages_write_of_not_isDrawable (isWhollyShown_of_read h) hdrawable
  obtain ⟨hresult, hstate⟩ := ending_toDrawing hs (result_toDrawing h compress)
  rw [hresult, hstate, loadDrawing_of_error (isBlankText_write d.graph compress defaultPageName)
    ((LooseText.pages_ofString _).trans hpages)]
  exact ⟨rfl, rfl⟩

end

end Session

/-! ## Texts that are converted -/

/-- **Documents.** Every Mermaid text that is read is converted. The drawing is a document that can
be listed, and a session that holds the text makes and loads it, if it is compressed or the texts of
the graph are legal, as they are in a legal text; otherwise the drawing is no document, and the
session fails and stays as it is. -/
theorem toDrawing_of_read {text : String} {d : Mermaid.Diagram} (h : Mermaid.read text = .ok d) :
    (∀ compress, ∃ drawing, (toDrawing text compress).result = .ok drawing ∧
      (IsDrawable d.graph compress → pages drawing = .ok drawnPages) ∧
      (¬ IsDrawable d.graph compress → pages drawing = .error .malformedMarkup) ∧
      ∀ s : Session, s.mermaid = some (.ofString text) →
        (IsDrawable d.graph compress → (Session.toDrawing compress s).result = .ok drawing ∧
          (Session.toDrawing compress s).state =
            { s with drawing := some (.ofString drawing), pages := drawnPages, pageIndex := 0 }) ∧
        (¬ IsDrawable d.graph compress →
          (Session.toDrawing compress s).result = .error .malformedMarkup ∧
            (Session.toDrawing compress s).state = s)) ∧
    (IsLegal text → HasLegalTexts d.graph) := by
  have hshown := isWhollyShown_of_read h
  refine ⟨fun compress => ⟨write d.graph compress defaultPageName, result_toDrawing h compress,
    pages_write_of_isDrawable hshown, pages_write_of_not_isDrawable hshown, fun s hs => ?_⟩,
    hasLegalTexts_of_read h⟩
  exact ⟨Session.toDrawing_of_isDrawable h hs, Session.toDrawing_of_not_isDrawable h hs⟩

/-- Two classes with characters of markup in a label and in a member. -/
def markupText : String :=
  "classDiagram\nclass A[\"a < b & 😀\"]\nA : size() \"<T>\"\nA --> B"

/-- The characters of markup are escaped, and a session loads the drawing. -/
theorem toDrawing_of_read_markupText :
    ∃ drawing, (toDrawing markupText false).result = .ok drawing ∧
      pages drawing = .ok drawnPages ∧
      (Session.toDrawing false { mermaid := some (.ofString markupText) }).result =
        .ok drawing := by
  have hlegal : IsLegal markupText := by decide
  obtain ⟨d, hread⟩ : ∃ d, Mermaid.read markupText = .ok d := ⟨_, rfl⟩
  obtain ⟨hmade, hlegalTexts⟩ := toDrawing_of_read hread
  have hdrawable : IsDrawable d.graph false := .inr (hlegalTexts hlegal)
  obtain ⟨drawing, hdrawing, hlisted, -, hsession⟩ := hmade false
  exact ⟨drawing, hdrawing, hlisted hdrawable, ((hsession _ rfl).1 hdrawable).1⟩

/-- A node whose label has a vertical tab in it. -/
def tabText : String :=
  "flowchart TD\nA[first\x0bsecond] --> B"

/-- The tab goes through to the drawing, which then is no document. -/
theorem not_document_tabText :
    (∃ d, Mermaid.read tabText = .ok d) ∧
      (∃ drawing, (toDrawing tabText false).result = .ok drawing ∧
        pages drawing = .error .malformedMarkup) ∧
      (Session.toDrawing false { mermaid := some (.ofString tabText) }).result =
        .error .malformedMarkup := by
  have hlabels : (Mermaid.read tabText).map (fun d => d.graph.nodes.map Node.label) =
      .ok ["first\x0bsecond", "B"] := by
    rfl
  obtain ⟨d, hread⟩ : ∃ d, Mermaid.read tabText = .ok d := ⟨_, rfl⟩
  rw [hread] at hlabels
  have hdrawable : ¬ IsDrawable d.graph false := by
    rintro (hfalse | htexts)
    · exact absurd hfalse (by simp)
    · have htab : "first\x0bsecond" ∈ d.graph.nodes.map Node.label := by
        have hlist : d.graph.nodes.map Node.label = ["first\x0bsecond", "B"] :=
          Except.ok.inj hlabels
        simp [hlist]
      obtain ⟨n, hn, heq⟩ := List.mem_map.1 htab
      exact absurd (heq ▸ htexts.labels n hn) (by decide)
  have hpages := pages_write_of_not_isDrawable (isWhollyShown_of_read hread) hdrawable
  exact ⟨⟨d, hread⟩, ⟨_, result_toDrawing hread false, hpages⟩,
    (Session.toDrawing_of_not_isDrawable hread rfl hdrawable).1⟩

end DiagramBridge
