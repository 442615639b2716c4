import DiagramBridge.Drawio.Reader
import DiagramBridge.Drawio.Writer
import DiagramBridge.Proofs.Drawio.Drawn
import DiagramBridge.Proofs.Report

/-!
# A written drawing is read back

A drawing whose texts are legal is a plain document, so reading it gives its elements, but for the
line breaks between them. Cells do not look at character data, so the line breaks change no cell:
what is extracted is what the cells of the graph model say.
-/

namespace DiagramBridge.Drawio

open Text Xml

/-! ## Line breaks change no cell -/

theorem tag_withLineBreaks (level : Nat) (e : Element) : (e.withLineBreaks level).tag = e.tag := by
  obtain ⟨tag, attributes, text, children⟩ := e
  cases children <;> rfl

theorem attributes_withLineBreaks (level : Nat) (e : Element) :
    (e.withLineBreaks level).attributes = e.attributes := by
  obtain ⟨tag, attributes, text, children⟩ := e
  cases children <;> rfl

theorem attribute?_withLineBreaks (level : Nat) (e : Element) (name : String) :
    (e.withLineBreaks level).attribute? name = e.attribute? name := by
  rw [Element.attribute?, Element.attribute?, attributes_withLineBreaks]

theorem children_withLineBreaks (level : Nat) (e : Element) :
    (e.withLineBreaks level).children = Element.forestWithLineBreaks (level + 1) e.children := by
  obtain ⟨tag, attributes, text, children⟩ := e
  cases children <;> rfl

theorem forestWithLineBreaks_eq_map (level : Nat) (es : List Element) :
    Element.forestWithLineBreaks level es = es.map (·.withLineBreaks level) := by
  induction es with
  | nil => rfl
  | cons e es ih => rw [Element.forestWithLineBreaks, List.map_cons, ih]

theorem child?_withLineBreaks (level : Nat) (e : Element) (tag : String) :
    (e.withLineBreaks level).child? tag = (e.child? tag).map (·.withLineBreaks (level + 1)) := by
  have htag : (fun e : Element => e.tag == tag) ∘ (Element.withLineBreaks (level + 1)) =
      fun e : Element => e.tag == tag :=
    funext fun e => by rw [Function.comp_apply, tag_withLineBreaks]
  rw [Element.child?, children_withLineBreaks, forestWithLineBreaks_eq_map, List.find?_map, htag,
    Element.child?]

theorem readGeometry_withLineBreaks (level : Nat) (e : Option Element) :
    readGeometry (e.map (·.withLineBreaks level)) = readGeometry e := by
  cases e with
  | none => rfl
  | some e =>
      have hlength : ∀ name default, lengthAttribute (some (e.withLineBreaks level)) name default =
          lengthAttribute (some e) name default := by
        intro name default
        simp only [lengthAttribute, Option.bind_some, attribute?_withLineBreaks]
      rw [Option.map_some, readGeometry, hlength, hlength, hlength, hlength]
      rfl

theorem ofElement?_withLineBreaks (level : Nat) (e : Element) (inner : Option Element) :
    Cell.ofElement? (e.withLineBreaks level) (inner.map (·.withLineBreaks (level + 1))) =
      Cell.ofElement? e inner := by
  have hattribute : ∀ name, (inner.map (·.withLineBreaks (level + 1))).bind (·.attribute? name) =
      inner.bind (·.attribute? name) := by
    intro name
    cases inner with
    | none => rfl
    | some e => exact attribute?_withLineBreaks (level + 1) e name
  have hgeometry : readGeometry (((e.withLineBreaks level).child? geometryTag).or
      ((inner.map (·.withLineBreaks (level + 1))).bind (·.child? geometryTag))) =
        readGeometry ((e.child? geometryTag).or (inner.bind (·.child? geometryTag))) := by
    rw [child?_withLineBreaks]
    cases e.child? geometryTag with
    | some box => exact readGeometry_withLineBreaks (level + 1) (some box)
    | none =>
        cases inner with
        | none => rfl
        | some e =>
            rw [Option.map_none, Option.none_or, Option.none_or, Option.map_some, Option.bind_some,
              Option.bind_some, child?_withLineBreaks, readGeometry_withLineBreaks]
  simp only [Cell.ofElement?, attribute?_withLineBreaks, hattribute, hgeometry]

mutual

theorem cellsOf_withLineBreaks (level : Nat) (isWrapped : Bool) :
    ∀ e : Element, cellsOf isWrapped (e.withLineBreaks level) = cellsOf isWrapped e
  | .mk tag attributes text [] => by
      rw [Element.withLineBreaks]
  | .mk tag attributes text (e :: es) => by
      have hes := fun skipsFirst =>
        cellsOfChildren_withLineBreaks (level + 1) skipsFirst (e :: es)
      have hcell := ofElement?_withLineBreaks level (.mk tag attributes text (e :: es))
      have hchild := child?_withLineBreaks level (.mk tag attributes text (e :: es)) cellTag
      have hcell₀ := hcell none
      rw [Element.withLineBreaks] at hcell hchild hcell₀ ⊢
      rw [Option.map_none] at hcell₀
      rw [cellsOf, cellsOf, hes, hes, hchild, hcell, hcell₀]

theorem cellsOfChildren_withLineBreaks (level : Nat) (skipsFirst : Bool) :
    ∀ es : List Element, cellsOfChildren skipsFirst (Element.forestWithLineBreaks level es) =
      cellsOfChildren skipsFirst es
  | [] => rfl
  | e :: es => by
      rw [Element.forestWithLineBreaks, cellsOfChildren, cellsOfChildren, tag_withLineBreaks]
      simp only [cellsOf_withLineBreaks level _ e, cellsOfChildren_withLineBreaks level _ es]

end

/-- The cells of a written graph model are those of the graph model. -/
theorem cells_withLineBreaks (level : Nat) (e : Element) :
    cells (e.withLineBreaks level) = cells e :=
  cellsOf_withLineBreaks level false e

mutual

/-- What line breaks leave alone still holds of all elements. -/
theorem all_withLineBreaks {P : Element → Prop} (hP : ∀ level e, P e → P (e.withLineBreaks level))
    (level : Nat) : ∀ e : Element, e.All P → (e.withLineBreaks level).All P
  | .mk tag attributes text [], h => by rwa [Element.withLineBreaks]
  | .mk tag attributes text (e :: es), h => by
      have hself := hP level _ h.self
      rw [Element.withLineBreaks] at hself ⊢
      exact Element.all_mk.2 ⟨hself,
        all_forestWithLineBreaks hP (level + 1) (e :: es) (Element.all_mk.1 h).2⟩

theorem all_forestWithLineBreaks {P : Element → Prop}
    (hP : ∀ level e, P e → P (e.withLineBreaks level)) (level : Nat) :
    ∀ es : List Element, (∀ e ∈ es, e.All P) →
      ∀ e ∈ Element.forestWithLineBreaks level es, e.All P
  | [], _ => by simp [Element.forestWithLineBreaks]
  | e :: es, h => by
      rw [List.forall_mem_cons] at h
      rw [Element.forestWithLineBreaks, List.forall_mem_cons]
      exact ⟨all_withLineBreaks hP level e h.1, all_forestWithLineBreaks hP level es h.2⟩

end

/-! ## Files of one page -/

theorem parseMarkup_of_read? {s : List Char} {e : Element} (h : read? (String.ofList s) = some e) :
    parseMarkup s = .ok e := by
  rw [parseMarkup, h]

theorem parseMarkup_of_read?_eq_none {s : List Char} (h : read? (String.ofList s) = none) :
    parseMarkup s = .error .malformedMarkup := by
  rw [parseMarkup, h]

/-- The file that holds one page. -/
def fileOfPage (page : Element) : Element :=
  element fileTag [("host", "interchange")] [page]

/-- The text of a file begins with the tag of files and ends with a tag. -/
theorem indentedText_fileOfPage (page : Element) :
    ∃ inner, (fileOfPage page).indentedText 0 = "<mxfile".toList ++ inner ++ ['>'] := by
  refine ⟨attributeText ("host", "interchange") ++ ('>' :: Element.indentedForest 1 [page]) ++
    Element.lineBreak 0 ++ "</mxfile".toList, ?_⟩
  rw [fileOfPage, element, Element.indentedText, tagOpening, endTagText]
  simp only [List.append_assoc, List.cons_append, List.flatMap_cons, List.flatMap_nil,
    List.nil_append]
  rfl

theorem bare_indentedText_fileOfPage (page : Element) :
    bare ((fileOfPage page).indentedText 0) = (fileOfPage page).indentedText 0 := by
  obtain ⟨inner, heq⟩ := indentedText_fileOfPage page
  have htrimmed : IsTrimmed ((fileOfPage page).indentedText 0) := by
    rw [heq]
    refine ⟨stops_cons_iff.2 (by decide : isBlank '<' = false), ?_⟩
    rw [List.reverse_append]
    exact stops_cons_iff.2 (by decide : isBlank '>' = false)
  rw [bare, trim_of_isTrimmed htrimmed, heq]
  rfl

theorem isPaged_indentedText_fileOfPage (page : Element) :
    isPaged ((fileOfPage page).indentedText 0) = true := by
  obtain ⟨inner, heq⟩ := indentedText_fileOfPage page
  rw [isPaged, occursIn_iff, heq, List.append_assoc]
  exact (List.prefix_append _ _).isInfix

/-- A page that a file can hold: it has the tag of a page, and no other page stands inside. -/
structure IsSolePage (page : Element) : Prop where
  tag : page.tag = pageTag
  inner : ∀ e ∈ page.children, e.All (·.tag ≠ pageTag)

theorem descendantsTagged_fileOfPage {page : Element} (h : IsSolePage page) :
    ((fileOfPage page).withLineBreaks 0).descendantsTagged pageTag = [page.withLineBreaks 1] := by
  have hinner : (page.withLineBreaks 1).descendantsTagged pageTag = [] := by
    rw [Element.descendantsTagged, List.filter_eq_nil_iff]
    intro d hd
    rw [Element.descendants, children_withLineBreaks] at hd
    obtain ⟨e, he, hd⟩ := Element.mem_forestElements.1 hd
    have hall := all_forestWithLineBreaks
      (fun level e he => (tag_withLineBreaks level e).symm ▸ he) 2 page.children h.inner e he
    simpa using hall d hd
  have hself : (page.withLineBreaks 1).selfAndDescendants =
      page.withLineBreaks 1 :: (page.withLineBreaks 1).descendants := by
    obtain ⟨tag, attributes, text, children⟩ := page.withLineBreaks 1
    rfl
  have htag : ((page.withLineBreaks 1).tag == pageTag) = true := by
    rw [tag_withLineBreaks, h.tag]
    rfl
  have hdescendants : ((fileOfPage page).withLineBreaks 0).descendants =
      page.withLineBreaks 1 :: (page.withLineBreaks 1).descendants := by
    rw [← hself]
    exact List.append_nil _
  rw [Element.descendantsTagged] at hinner ⊢
  rw [hdescendants, List.filter_cons_of_pos (by simpa using htag), hinner]

/-- What reading gives for the graph model of a page. -/
def readingOf (model : Element) : Except ConversionError Reading :=
  if (extract (cells model)).nodes.isEmpty then .error .noNodesInDrawing
  else .ok ⟨extract (cells model), 0, 1⟩

section File

variable {page : Element}

theorem parseMarkup_fileOfPage (h : (fileOfPage page).IsPlain) :
    parseMarkup ((fileOfPage page).indentedText 0) = .ok ((fileOfPage page).withLineBreaks 0) :=
  parseMarkup_of_read? (read?_indented h)

theorem parseMarkup_fileOfPage_of_illegal (h : ¬ (fileOfPage page).All Element.HasLegalValues) :
    parseMarkup ((fileOfPage page).indentedText 0) = .error .malformedMarkup :=
  parseMarkup_of_read?_eq_none (read?_indented_eq_none h)

/-- A sole page is selected under every number. -/
theorem result_selectAmong_nil (page : Element) (index : Int) :
    (selectAmong page [] index).result = (modelOf page).map fun model => ⟨model, 0, 1⟩ := by
  have hmodel : ∀ place, ((Report.ofExcept (modelOf page)) >>= fun model =>
      (pure ⟨model, place, 1⟩ : Report Selection)).result =
        (modelOf page).map fun model => ⟨model, place, 1⟩ := by
    intro place
    rw [Report.result_bind, Report.result_ofExcept]
    cases modelOf page <;> rfl
  rw [selectAmong]
  cases hplace : placeOf? index 1 with
  | none =>
      simp only [List.length_singleton, Report.result_tell_bind]
      exact hmodel 0
  | some place =>
      have hzero : place = 0 := by
        rw [placeOf?] at hplace
        split_ifs at hplace with hrange
        rw [← Option.some.inj hplace]
        omega
      simp only [List.length_singleton, hzero, List.getD_cons_zero]
      exact hmodel 0

theorem result_read_eq (page : Element) (index : Int) :
    (read (fileOfPage page).indented index).result =
      (select ((fileOfPage page).indentedText 0) index).result.bind fun selection =>
        if (extract (cells selection.model)).nodes.isEmpty then .error .noNodesInDrawing
        else .ok ⟨extract (cells selection.model), selection.pageIndex, selection.pageCount⟩ := by
  obtain ⟨inner, htext⟩ := indentedText_fileOfPage page
  have hsome : ((fileOfPage page).indentedText 0).isEmpty = false := by
    rw [htext]
    rfl
  rw [read, Element.indented, String.toList_ofList, bare_indentedText_fileOfPage]
  simp only [hsome, Bool.false_eq_true, if_false, Report.result_bind]
  congr 1
  funext selection
  split_ifs <;> rfl

/-- Reading a file of one page gives what its graph model says, under every number. -/
theorem result_read_fileOfPage (h : (fileOfPage page).IsPlain) (hsole : IsSolePage page)
    (index : Int) : (read (fileOfPage page).indented index).result =
      (modelOf (page.withLineBreaks 1)).bind readingOf := by
  have hselect : (select ((fileOfPage page).indentedText 0) index).result =
      (modelOf (page.withLineBreaks 1)).map fun model => ⟨model, 0, 1⟩ := by
    rw [select, Report.result_bind, Report.result_ofExcept, parseMarkup_fileOfPage h,
      isPaged_indentedText_fileOfPage]
    simp only [Except.bind, Bool.not_true, Bool.false_eq_true, if_false,
      descendantsTagged_fileOfPage hsole]
    exact result_selectAmong_nil _ index
  rw [result_read_eq, hselect]
  cases modelOf (page.withLineBreaks 1) <;> rfl

theorem result_read_fileOfPage_of_illegal (h : ¬ (fileOfPage page).All Element.HasLegalValues)
    (index : Int) :
    (read (fileOfPage page).indented index).result = .error .malformedMarkup := by
  have hselect : (select ((fileOfPage page).indentedText 0) index).result =
      .error .malformedMarkup := by
    rw [select, Report.result_bind, Report.result_ofExcept, parseMarkup_fileOfPage_of_illegal h]
    rfl
  rw [result_read_eq, hselect]
  rfl

/-- The list of pages has that page alone. -/
theorem pages_fileOfPage (h : (fileOfPage page).IsPlain) (hsole : IsSolePage page) :
    pages (fileOfPage page).indented = .ok [Page.ofElement (page.withLineBreaks 1) 0] := by
  rw [pages, Element.indented, String.toList_ofList, bare_indentedText_fileOfPage,
    isPaged_indentedText_fileOfPage, parseMarkup_fileOfPage h]
  simp only [Bool.not_true, Bool.false_eq_true, if_false, bind, Except.bind,
    descendantsTagged_fileOfPage hsole]
  rfl

theorem pages_fileOfPage_of_illegal (h : ¬ (fileOfPage page).All Element.HasLegalValues) :
    pages (fileOfPage page).indented = .error .malformedMarkup := by
  rw [pages, Element.indented, String.toList_ofList, bare_indentedText_fileOfPage,
    isPaged_indentedText_fileOfPage, parseMarkup_fileOfPage_of_illegal h]
  rfl

end File

theorem all_hasLegalValues_fileOfPage {page : Element} :
    (fileOfPage page).All Element.HasLegalValues ↔ page.All Element.HasLegalValues := by
  have hhost : ∀ value ∈ [("host", "interchange")].map Prod.snd, IsLegal value := by decide
  rw [fileOfPage, all_hasLegalValues_element, and_iff_right hhost, List.forall_mem_singleton]

theorem isPlain_fileOfPage {page : Element} (htidy : page.All Element.IsTidy)
    (hlegal : page.All Element.HasLegalValues) : (fileOfPage page).IsPlain := by
  have htag : IsSimpleName fileTag.toList := by decide
  have hnames : ArePlainNames ["host"] := by decide
  refine Element.isPlain_iff.2 ⟨Element.all_mk.2 ⟨⟨htag, hnames, by simp [Element.text]⟩, ?_⟩,
    all_hasLegalValues_fileOfPage.2 hlegal⟩
  rwa [List.forall_mem_singleton]

/-! ## Pages of a name -/

/-- The page of a name, with a text or with a graph model inside. -/
def pageOf (name text : String) (children : List Element) : Element :=
  .mk pageTag [("id", "page-1"), ("name", name)] text children

section Page

variable {name text : String} {children : List Element}

theorem all_isTidy_pageOf (htext : ∀ c ∈ text.toList, isPlainTextChar c = true)
    (hchildren : ∀ e ∈ children, e.All Element.IsTidy) :
    (pageOf name text children).All Element.IsTidy := by
  have htag : IsSimpleName pageTag.toList := by decide
  have hnames : ArePlainNames ["id", "name"] := by decide
  exact Element.all_mk.2 ⟨⟨htag, hnames, htext⟩, hchildren⟩

theorem all_hasLegalValues_pageOf : (pageOf name text children).All Element.HasLegalValues ↔
    IsLegal name ∧ ∀ e ∈ children, e.All Element.HasLegalValues := by
  have hid : IsLegal "page-1" := by decide
  rw [pageOf, Element.all_mk, Element.HasLegalValues]
  simp [Element.attributes, hid]

theorem isSolePage_pageOf (h : ∀ e ∈ children, e.All (·.tag ≠ pageTag)) :
    IsSolePage (pageOf name text children) :=
  ⟨rfl, h⟩

end Page

/-- The page as it is listed. -/
theorem ofElement_pageOf (name text : String) (children : List Element) :
    Page.ofElement ((pageOf name text children).withLineBreaks 1) 0 =
      ⟨"page-1", (nonEmpty? (some name)).getD "Page 1", 0⟩ := by
  rw [Page.ofElement, attribute?_withLineBreaks, attribute?_withLineBreaks]
  rfl

/-- A graph model stands on a page of its own. -/
theorem modelOf_pageOf {model : Element} (name : String) (htag : model.tag = modelTag) :
    modelOf ((pageOf name "" [model]).withLineBreaks 1) = .ok (model.withLineBreaks 2) := by
  have hfirst : ∃ others, ((pageOf name "" [model]).withLineBreaks 1).descendantsTagged
      modelTag = model.withLineBreaks 2 :: others := by
    obtain ⟨tag, attributes, text, children⟩ := model
    have htag : tag = modelTag := htag
    subst htag
    cases children with
    | nil => exact ⟨_, rfl⟩
    | cons e es => exact ⟨_, rfl⟩
  obtain ⟨others, heq⟩ := hfirst
  rw [modelOf, heq]

theorem readingOf_withLineBreaks (level : Nat) (model : Element) :
    readingOf (model.withLineBreaks level) = readingOf model := by
  rw [readingOf, cells_withLineBreaks, readingOf]

/-! ## Drawings of graphs -/

/-- The page on which a graph is drawn. -/
def markupPage (g : Graph) (name : String) : Element :=
  pageOf name "" [model g]

theorem write_false (g : Graph) (name : String) :
    write g false name = (fileOfPage (markupPage g name)).indented := rfl

theorem isSolePage_markupPage (g : Graph) (name : String) : IsSolePage (markupPage g name) := by
  refine isSolePage_pageOf ?_
  rw [List.forall_mem_singleton]
  exact all_tag_ne_pageTag_modelOfPlaced g.layout

theorem all_hasLegalValues_markupPage {g : Graph} {name : String} :
    (markupPage g name).All Element.HasLegalValues ↔
      IsLegal name ∧ (model g).All Element.HasLegalValues := by
  rw [markupPage, all_hasLegalValues_pageOf, List.forall_mem_singleton]

theorem isPlain_fileOfPage_markupPage {g : Graph} {name : String} (hname : IsLegal name)
    (h : (model g).All Element.HasLegalValues) : (fileOfPage (markupPage g name)).IsPlain := by
  refine isPlain_fileOfPage (all_isTidy_pageOf (by simp) ?_)
    (all_hasLegalValues_markupPage.2 ⟨hname, h⟩)
  rw [List.forall_mem_singleton]
  exact all_isTidy_modelOfPlaced g.layout

/-- Reading a drawing with legal values gives what the cells of its graph model say. -/
theorem result_read_write_of_legal {g : Graph} {name : String} (hname : IsLegal name)
    (h : (model g).All Element.HasLegalValues) (index : Int) :
    (read (write g false name) index).result = readingOf (model g) := by
  rw [write_false, result_read_fileOfPage (isPlain_fileOfPage_markupPage hname h)
    (isSolePage_markupPage g name), markupPage, modelOf_pageOf name rfl]
  exact readingOf_withLineBreaks 2 (model g)

/-- With another value it is not read. -/
theorem result_read_write_of_illegal {g : Graph} {name : String}
    (h : ¬ (IsLegal name ∧ (model g).All Element.HasLegalValues)) (index : Int) :
    (read (write g false name) index).result = .error .malformedMarkup := by
  rw [write_false]
  refine result_read_fileOfPage_of_illegal (fun hall => h ?_) index
  exact all_hasLegalValues_markupPage.1 (all_hasLegalValues_fileOfPage.1 hall)

/-- The list of pages of a drawing that is not given a name for its page. -/
def drawnPages : List Page :=
  [⟨"page-1", defaultPageName, 0⟩]

theorem pages_write_false {g : Graph} (h : (model g).All Element.HasLegalValues) :
    pages (write g false defaultPageName) = .ok drawnPages := by
  have hname : IsLegal defaultPageName := by decide
  rw [write_false, pages_fileOfPage (isPlain_fileOfPage_markupPage hname h)
    (isSolePage_markupPage g defaultPageName), markupPage, ofElement_pageOf]
  rfl

theorem pages_write_false_of_illegal {g : Graph} (h : ¬ (model g).All Element.HasLegalValues) :
    pages (write g false defaultPageName) = .error .malformedMarkup := by
  rw [write_false]
  refine pages_fileOfPage_of_illegal fun hall => h ?_
  exact (all_hasLegalValues_markupPage.1 (all_hasLegalValues_fileOfPage.1 hall)).2

end DiagramBridge.Drawio
