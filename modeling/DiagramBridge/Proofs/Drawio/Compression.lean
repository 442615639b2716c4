import DiagramBridge.Proofs.Drawio.Document
import DiagramBridge.Proofs.Drawio.Payload

/-!
# Compressed drawings

A page keeps its graph model as markup, which is read with the file, or as a payload, whose markup
is a text of its own. The one is written with line breaks and the other without, and an illegal
character makes either unreadable: the whole file, or only the markup in the payload. What comes of
it is the same.
-/

namespace DiagramBridge.Drawio

open Text Xml Codec

/-! ## Markup on one line -/

/-- An element begins with its tag and ends with one. -/
theorem exists_inlineText_eq (e : Element) : ∃ inner, e.inlineText = '<' :: inner ++ ['>'] := by
  obtain ⟨tag, attributes, text, children⟩ := e
  rw [Element.inlineText, tagOpening]
  split_ifs
  · exact ⟨tag.toList ++ attributes.flatMap attributeText ++ " /".toList, by simp⟩
  · exact ⟨tag.toList ++ attributes.flatMap attributeText ++ ('>' :: text.toList.flatMap textChar ++
      Element.inlineForest children ++ ("</".toList ++ tag.toList)), by simp [endTagText]⟩

theorem trim_inlineText (e : Element) : trim e.inlineText = e.inlineText := by
  obtain ⟨inner, heq⟩ := exists_inlineText_eq e
  rw [heq]
  refine trim_of_isTrimmed ⟨stops_cons_iff.2 (by decide : isBlank '<' = false), ?_⟩
  exact stops_reverse_append (stops_cons_iff.2 (by decide : isBlank '>' = false)) (by simp) _

theorem parseMarkup_inlineText {e : Element} (h : e.IsPlain)
    (hunmixed : e.All Element.IsUnmixed) : parseMarkup e.inlineText = .ok e :=
  parseMarkup_of_read? (read?_inline h hunmixed)

theorem parseMarkup_inlineText_of_illegal {e : Element} (hunmixed : e.All Element.IsUnmixed)
    (h : ¬ e.All Element.HasLegalValues) :
    parseMarkup e.inlineText = .error .malformedMarkup :=
  parseMarkup_of_read?_eq_none (read?_inline_eq_none hunmixed h)

/-! ## Payloads on a page -/

/-- The page that keeps a deflated stream. -/
def packedPage (name : String) (stream : List UInt8) : Element :=
  pageOf name (String.ofList (Base64.encode stream)) []

theorem isPlainTextChar_of_mem_base64 {bytes : List UInt8} {c : Char}
    (h : c ∈ Base64.encode bytes) : isPlainTextChar c = true ∧ isBlank c = false ∧ c ≠ '<' := by
  have hall : ∀ c ∈ '=' :: Base64.digits,
      isPlainTextChar c = true ∧ isBlank c = false ∧ c ≠ '<' := by
    decide
  exact hall c (Base64.mem_encode h)

theorem isSolePage_packedPage (name : String) (stream : List UInt8) :
    IsSolePage (packedPage name stream) :=
  isSolePage_pageOf (by simp)

theorem all_hasLegalValues_packedPage {name : String} {stream : List UInt8} :
    (packedPage name stream).All Element.HasLegalValues ↔ IsLegal name := by
  rw [packedPage, all_hasLegalValues_pageOf]
  simp

theorem isPlain_fileOfPage_packedPage {name : String} (hname : IsLegal name)
    (stream : List UInt8) : (fileOfPage (packedPage name stream)).IsPlain := by
  refine isPlain_fileOfPage (all_isTidy_pageOf (fun c hc => ?_) (by simp))
    (all_hasLegalValues_packedPage.2 hname)
  rw [String.toList_ofList] at hc
  exact (isPlainTextChar_of_mem_base64 hc).1

/-- The graph model of a packed page is the markup that its stream holds. -/
theorem modelOf_packedPage (name : String) {stream rest : List UInt8} {model : Element}
    (h : Inflate.inflate? stream = some (Utf8.encode (Percent.encode model.inlineText), rest)) :
    modelOf ((packedPage name stream).withLineBreaks 1) = parseMarkup model.inlineText := by
  have hnone : ((packedPage name stream).withLineBreaks 1).descendantsTagged modelTag = [] := rfl
  have htext : ((packedPage name stream).withLineBreaks 1).text.toList = Base64.encode stream :=
    String.toList_ofList
  have htrim : trim (Base64.encode stream) = Base64.encode stream :=
    trim_of_isTrimmed (isTrimmed_of_forall fun c hc => (isPlainTextChar_of_mem_base64 hc).2.1)
  have hdecode := Payload.decode_spaced h (Payload.Spaced.refl _)
  rw [modelOf, hnone]
  dsimp only
  rw [htext, htrim]
  split
  · next hnil => exact absurd hnil (Payload.base64_ne_nil_of_inflate? h)
  · next s hs =>
    have hlt : '<' ∈ Base64.encode stream := by simp [hs]
    exact absurd rfl (isPlainTextChar_of_mem_base64 hlt).2.2
  · simp only [hdecode, bind, Except.bind, trim_inlineText]

/-! ## The two drawings of a graph -/

theorem write_true (g : Graph) (name : String) :
    write g true name = (fileOfPage (packedPage name
      (Deflate.deflate (Utf8.encode (Percent.encode (model g).inlineText))))).indented := rfl

/-- The list of pages does not look into a payload. -/
theorem pages_write_true (g : Graph) : pages (write g true defaultPageName) = .ok drawnPages := by
  have hname : IsLegal defaultPageName := by decide
  rw [write_true, pages_fileOfPage (isPlain_fileOfPage_packedPage hname _)
    (isSolePage_packedPage _ _), packedPage, ofElement_pageOf]
  rfl

theorem result_read_packedPage (g : Graph) (name : String) (index : Int)
    {stream rest : List UInt8}
    (h : Inflate.inflate? stream = some (Utf8.encode (Percent.encode (model g).inlineText), rest)) :
    (read (fileOfPage (packedPage name stream)).indented index).result =
      (read (write g false name) index).result := by
  have hunmixed : (model g).All Element.IsUnmixed := all_isUnmixed_modelOfPlaced g.layout
  by_cases hname : IsLegal name
  · have hread := result_read_fileOfPage (isPlain_fileOfPage_packedPage hname stream)
      (isSolePage_packedPage name stream) index
    rw [hread, modelOf_packedPage name h]
    by_cases hlegal : (model g).All Element.HasLegalValues
    · have hplain : (model g).IsPlain :=
        Element.isPlain_iff.2 ⟨all_isTidy_modelOfPlaced g.layout, hlegal⟩
      rw [parseMarkup_inlineText hplain hunmixed, result_read_write_of_legal hname hlegal]
      rfl
    · rw [parseMarkup_inlineText_of_illegal hunmixed hlegal,
        result_read_write_of_illegal fun h => hlegal h.2]
      rfl
  · rw [result_read_write_of_illegal fun h => hname h.1]
    refine result_read_fileOfPage_of_illegal (fun hall => hname ?_) index
    exact all_hasLegalValues_packedPage.1 (all_hasLegalValues_fileOfPage.1 hall)

/-- **Compression does not show.** A graph that is drawn as a payload is read like one that is drawn
as markup, on every page and with every text: the same graph, or the same error. It is so however
the payload was deflated. -/
theorem result_read_write_compress (g : Graph) (name : String) (index : Int) :
    (read (write g true name) index).result = (read (write g false name) index).result ∧
    ∀ stream rest : List UInt8,
      Inflate.inflate? stream = some (Utf8.encode (Percent.encode (model g).inlineText), rest) →
      (read (fileOfPage (packedPage name stream)).indented index).result =
        (read (write g false name) index).result := by
  constructor
  · exact result_read_packedPage g name index (Payload.inflate?_encoded (model g).inlineText)
  · exact fun _ _ h => result_read_packedPage g name index h

def loneNode : Graph where
  nodes := [{ id := "A", label := "\u00e9", shape := .rectangle }]
  edges := []
  subgraphs := []
  settled := []
  nodup := by decide

/-- The graph model of the empty graph, deflated with stretches that occur again. -/
def emptyModelStream : List UInt8 :=
  [83, 53, 118, 206, 173, 112, 47, 74, 44, 200, 240, 205, 79, 73, 205, 81, 53, 118, 85, 53,
    118, 46, 202, 207, 47, 129, 176, 114, 43, 156, 83, 115, 114, 84, 141, 12, 50, 83, 84, 141,
    93, 84, 141, 140, 12, 128, 88, 21, 68, 186, 225, 80, 96, 8, 81, 80, 144, 88, 148, 154, 87,
    130, 93, 15, 144, 129, 176, 1, 200, 65, 115, 0, 0]

/-- There is no page with the number 3, so the only one is read; the empty one is refused. -/
theorem result_read_write_compress_empty :
    (read (write loneNode true "p") 3).result.isOk = true ∧
      Inflate.inflate? emptyModelStream =
        some (Utf8.encode (Percent.encode (model .empty).inlineText), []) ∧
      (read (fileOfPage (packedPage "p" emptyModelStream)).indented 3).result =
        .error .noNodesInDrawing := by
  have htexts : HasLegalTexts loneNode := ⟨by decide, by decide, by decide, by decide, by decide⟩
  have hlegal : (model loneNode).All Element.HasLegalValues :=
    (Element.isPlain_iff.1 (isPlain_modelOfPlaced htexts.layout)).2
  have hempty : (model .empty).All Element.HasLegalValues :=
    (Element.isPlain_iff.1 (isPlain_modelOfPlaced
      (HasLegalTexts.layout ⟨by decide, by decide, by decide, by decide, by decide⟩))).2
  have hstream : Inflate.inflate? emptyModelStream =
      some (Utf8.encode (Percent.encode (model .empty).inlineText), []) := by
    decide +kernel
  refine ⟨?_, hstream, ?_⟩
  · rw [(result_read_write_compress loneNode "p" 3).1,
      result_read_write_of_legal (by decide) hlegal]
    decide +kernel
  · rw [(result_read_write_compress .empty "p" 3).2 emptyModelStream [] hstream,
      result_read_write_of_legal (by decide) hempty]
    rfl

end DiagramBridge.Drawio
