import DiagramBridge.Conversion.Session
import DiagramBridge.Proofs.Conversion.Pipeline
import DiagramBridge.Proofs.Drawio.Pages
import DiagramBridge.Proofs.Operation

/-!
# Runs of a session

Each operation on a session does one of two things: it ends with an error and leaves the session as
it was, or it changes the session in the one way that `Change` names for it. Whatever is true of the
empty session and is kept by these few changes is true after every run.

A session is kept in order in this way: the pages are those of the drawing, and the number of the
selected page is that of one of them. So a session without a drawing has nothing selected, and a
page that a session selects is there when it is read.
-/

namespace DiagramBridge.Session

/-! ## What each operation does -/

/-- A way in which a session can change. -/
inductive Change : Session → Session → Prop where
  /-- A drawing that can be listed is loaded, and its first page is selected. -/
  | load (s : Session) {text : LooseText} {pages : List Drawio.Page}
      (h : text.pages = .ok pages) :
      Change s { s with drawing := some text, pages, pageIndex := 0 }
  /-- A Mermaid text is loaded or made. -/
  | write (s : Session) (text : LooseText) : Change s { s with mermaid := some text }
  /-- A page of the drawing is selected. -/
  | select (s : Session) {index : Int} (hdrawing : s.drawing.isSome = true)
      (hpage : (s.page? index).isSome = true) : Change s { s with pageIndex := index }

/-- What an operation may make of a session: nothing, or one change when it ends with a value. -/
def Settles (s : Session) {α : Type} (o : Ending Notice ConversionError Session α) : Prop :=
  o.state = s ∨ (∃ a, o.result = .ok a) ∧ Change s o.state

variable {s : Session} {α β : Type}

/-- A conversion changes nothing. -/
theorem Settles.ofReport_bind {r : Report α} {next : α → Operation β}
    (h : ∀ a, Settles s (next a s)) : Settles s ((.ofReport r >>= next : Operation β) s) := by
  cases hr : r.result with
  | error e =>
      have hop : ((.ofReport r : Operation α) s).result = .error e := hr
      rw [Operation.bind_eq_of_error hop]
      exact .inl rfl
  | ok a =>
      have hop : ((.ofReport r : Operation α) s).result = .ok a := hr
      rw [Operation.bind_eq_of_ok hop]
      exact h a

theorem Settles.bind_pure {op : Operation α} (h : Settles s (op s)) (b : β) :
    Settles s ((op >>= fun _ => pure b) s) := by
  cases hop : (op s).result with
  | error e =>
      rw [Operation.bind_eq_of_error hop]
      rcases h with hstate | ⟨⟨a, ha⟩, -⟩
      · exact .inl hstate
      · rw [hop] at ha
        exact absurd ha (by simp)
  | ok a =>
      rw [Operation.bind_eq_of_ok hop]
      rcases h with hstate | ⟨-, hchange⟩
      · exact .inl hstate
      · exact .inr ⟨⟨b, rfl⟩, hchange⟩

theorem settles_loadDrawing (text : LooseText) (s : Session) : Settles s (loadDrawing text s) := by
  rw [loadDrawing]
  split_ifs
  · exact .inl rfl
  · cases h : text.pages with
    | error e => exact .inl rfl
    | ok pages => exact .inr ⟨⟨pages, rfl⟩, .load s h⟩

theorem settles_loadMermaid (text : LooseText) (s : Session) : Settles s (loadMermaid text s) := by
  rw [loadMermaid]
  split_ifs
  · exact .inl rfl
  · exact .inr ⟨⟨(), rfl⟩, .write s text⟩

theorem settles_selectPage (index : Int) (s : Session) : Settles s (selectPage index s) := by
  rw [selectPage, Operation.look_bind]
  split_ifs with hdrawing
  · exact .inl rfl
  · cases hpage : s.page? index with
    | none => exact .inl rfl
    | some page =>
        have hsome : s.drawing.isSome = true := by
          rwa [Option.isNone_iff_eq_none, ← ne_eq, Option.ne_none_iff_isSome] at hdrawing
        exact .inr ⟨⟨page, rfl⟩, .select s hsome (by rw [hpage]; rfl)⟩

theorem settles_toMermaid (options : Options) (s : Session) : Settles s (toMermaid options s) := by
  rw [toMermaid, Operation.look_bind]
  cases s.drawing with
  | none => exact .inl rfl
  | some drawing =>
      apply Settles.ofReport_bind
      intro m
      exact .inr ⟨⟨m, rfl⟩, .write s (.ofString m.mermaid)⟩

theorem settles_toDrawing (compress : Bool) (s : Session) : Settles s (toDrawing compress s) := by
  rw [toDrawing, Operation.look_bind]
  cases s.mermaid with
  | none => exact .inl rfl
  | some mermaid =>
      apply Settles.ofReport_bind
      intro drawing
      exact (settles_loadDrawing (.ofString drawing) s).bind_pure drawing

/-- A drawing that can be listed is loaded. -/
theorem loadDrawing_of_pages {text : LooseText} {pages : List Drawio.Page}
    (hblank : isBlankText text = false) (h : text.pages = .ok pages) (s : Session) :
    loadDrawing text s =
      ⟨[], .ok pages, { s with drawing := some text, pages, pageIndex := 0 }⟩ := by
  rw [loadDrawing, hblank, h]
  rfl

theorem loadDrawing_of_error {text : LooseText} {e : ConversionError}
    (hblank : isBlankText text = false) (h : text.pages = .error e) (s : Session) :
    loadDrawing text s = ⟨[], .error e, s⟩ := by
  rw [loadDrawing, hblank, h]
  rfl

/-- The drawing that is made is loaded, and all else depends on that. -/
theorem ending_toDrawing {text drawing : String} {compress : Bool}
    (hs : s.mermaid = some (.ofString text))
    (hmade : (DiagramBridge.toDrawing text compress).result = .ok drawing) :
    (toDrawing compress s).result =
        (loadDrawing (.ofString drawing) s).result.map (fun _ => drawing) ∧
      (toDrawing compress s).state = (loadDrawing (.ofString drawing) s).state := by
  have hstep : toDrawing compress s = (do
      let drawing ← .ofReport ((LooseText.ofString text).toDrawing compress)
      let _ ← loadDrawing (.ofString drawing)
      pure drawing : Operation String) s := by
    rw [toDrawing, Operation.look_bind, hs]
  have hconvert : ((.ofReport ((LooseText.ofString text).toDrawing compress) :
      Operation String) s).result = .ok drawing := by
    rw [LooseText.toDrawing_ofString]
    exact hmade
  have hstate : ((.ofReport ((LooseText.ofString text).toDrawing compress) :
      Operation String) s).state = s := rfl
  rw [hstep, Operation.bind_eq_of_ok hconvert, hstate]
  cases hload : (loadDrawing (.ofString drawing) s).result with
  | error e =>
      rw [Operation.bind_eq_of_error hload]
      exact ⟨rfl, rfl⟩
  | ok pages =>
      rw [Operation.bind_eq_of_ok hload]
      exact ⟨rfl, rfl⟩

/-! ## Runs -/

/-- One of the things that can be done with a session, with what it is given. -/
inductive Command where
  | loadDrawing (text : LooseText)
  | loadMermaid (text : LooseText)
  | selectPage (index : Int)
  | toMermaid (options : Options)
  | toDrawing (compress : Bool)

/-- Does it, whatever value it ends with. -/
def Command.perform : Command → Operation Unit
  | .loadDrawing text => do
    let _ ← Session.loadDrawing text
    pure ()
  | .loadMermaid text => Session.loadMermaid text
  | .selectPage index => do
    let _ ← Session.selectPage index
    pure ()
  | .toMermaid options => do
    let _ ← Session.toMermaid options
    pure ()
  | .toDrawing compress => do
    let _ ← Session.toDrawing compress
    pure ()

theorem isAtomic_of_settles {op : Operation α} (h : ∀ s, Settles s (op s)) :
    DiagramBridge.Operation.IsAtomic op := by
  intro s e he
  rcases h s with hstate | ⟨⟨a, ha⟩, -⟩
  · exact hstate
  · rw [he] at ha
    exact absurd ha (by simp)

theorem settles_perform (c : Command) (s : Session) : Settles s (c.perform s) := by
  cases c with
  | loadDrawing text => exact (settles_loadDrawing text s).bind_pure ()
  | loadMermaid text => exact settles_loadMermaid text s
  | selectPage index => exact (settles_selectPage index s).bind_pure ()
  | toMermaid options => exact (settles_toMermaid options s).bind_pure ()
  | toDrawing compress => exact (settles_toDrawing compress s).bind_pure ()

/-- The session after some commands, each of which may fail. -/
def run (commands : List Command) (s : Session) : Session :=
  commands.foldl (fun s c => (c.perform s).state) s

theorem run_cons (c : Command) (commands : List Command) (s : Session) :
    run (c :: commands) s = run commands (c.perform s).state := rfl

/-- What changes keep is kept by every run. -/
theorem run_induction {P : Session → Prop} (hchange : ∀ s t, P s → Change s t → P t)
    (commands : List Command) {s : Session} (h : P s) : P (run commands s) := by
  induction commands generalizing s with
  | nil => exact h
  | cons c commands ih =>
      rw [run_cons]
      rcases settles_perform c s with hstate | ⟨-, hc⟩
      · rw [hstate]
        exact ih h
      · exact ih (hchange s _ h hc)

/-- Without a drawing there are no pages. A drawing has the pages that are listed for it, one at
least, and one of them is selected. -/
structure IsInOrder (s : Session) : Prop where
  of_none : s.drawing = none → s.pages = [] ∧ s.pageIndex = 0
  pages_eq : ∀ drawing, s.drawing = some drawing → drawing.pages = .ok s.pages
  pages_ne_nil : s.drawing.isSome = true → s.pages ≠ []
  map_index : s.pages.map (·.index) = List.range s.pages.length
  inRange : s.drawing.isSome = true → 0 ≤ s.pageIndex ∧ s.pageIndex < s.pages.length

theorem isInOrder_empty : IsInOrder empty where
  of_none _ := ⟨rfl, rfl⟩
  pages_eq _ h := absurd h (by simp [empty])
  pages_ne_nil h := absurd h (by simp [empty])
  map_index := rfl
  inRange h := absurd h (by simp [empty])

theorem page?_isSome_iff {s : Session} {index : Int} :
    (s.page? index).isSome = true ↔ 0 ≤ index ∧ index < s.pages.length := by
  rw [page?]
  constructor
  · intro h
    cases hplace : Drawio.placeOf? index s.pages.length with
    | none =>
        rw [hplace] at h
        exact absurd h (by simp)
    | some place => exact Drawio.placeOf?_isSome_iff.1 (by rw [hplace]; rfl)
  · intro h
    have hlt : index.toNat < s.pages.length := by omega
    rw [Drawio.placeOf?_of_inRange h, Option.bind_some, List.getElem?_eq_getElem hlt]
    rfl

theorem IsInOrder.change {s t : Session} (h : IsInOrder s) (hc : Change s t) : IsInOrder t := by
  cases hc with
  | load hpages =>
      obtain ⟨hne, hindex⟩ :=
        Drawio.ne_nil_and_map_index_of_pages (LooseText.pages_text_of_pages hpages)
      exact
        { of_none := fun hnone => absurd hnone (by simp)
          pages_eq := fun drawing hdrawing => by rwa [← Option.some.inj hdrawing]
          pages_ne_nil := fun _ => hne
          map_index := hindex
          inRange := fun _ => ⟨Int.le_refl 0, by simpa [List.length_pos_iff] using hne⟩ }
  | write text =>
      exact
        { of_none := h.of_none
          pages_eq := h.pages_eq
          pages_ne_nil := h.pages_ne_nil
          map_index := h.map_index
          inRange := h.inRange }
  | select hdrawing hpage =>
      exact
        { of_none := fun hnone => by
            rw [hnone] at hdrawing
            exact absurd hdrawing (by simp)
          pages_eq := h.pages_eq
          pages_ne_nil := h.pages_ne_nil
          map_index := h.map_index
          inRange := fun _ => page?_isSome_iff.1 hpage }

theorem isInOrder_run (commands : List Command) : IsInOrder (run commands empty) :=
  run_induction (fun _ _ h hc => h.change hc) commands isInOrder_empty

/-! ## What succeeds -/

theorem exists_selectPage_iff {s : Session} {index : Int} :
    (∃ page, (selectPage index s).result = .ok page) ↔
      s.drawing.isSome = true ∧ 0 ≤ index ∧ index < s.pages.length := by
  rw [← page?_isSome_iff, selectPage, Operation.look_bind]
  cases s.drawing with
  | none => simp
  | some drawing =>
      cases s.page? index with
      | none => simp
      | some page => simp

theorem exists_drawing_of_toMermaid {s : Session} {options : Options} {m : MermaidResult}
    (h : (toMermaid options s).result = .ok m) :
    ∃ drawing, s.drawing = some drawing ∧
      (DiagramBridge.toMermaid drawing.text options s.pageIndex).result = .ok m := by
  rw [toMermaid, Operation.look_bind] at h
  cases hdrawing : s.drawing with
  | none =>
      rw [hdrawing] at h
      exact absurd h (by simp)
  | some drawing =>
      rw [hdrawing] at h
      obtain ⟨m', hm', hok⟩ := Operation.result_bind_eq_ok_iff.1 h
      have heq : m' = m := Except.ok.inj hok
      exact ⟨drawing, rfl, LooseText.result_text_of_toMermaid (heq ▸ hm')⟩

theorem mem_notices_read_of_toMermaid {s : Session} {options : Options}
    {drawing : LooseText} {index : Int} {count : Nat} (hdrawing : s.drawing = some drawing)
    (h : .pageOutOfRange index count ∈ (toMermaid options s).notices) :
    .pageOutOfRange index count ∈ (Drawio.read drawing.text s.pageIndex).notices := by
  rw [toMermaid, Operation.look_bind, hdrawing] at h
  rcases Operation.mem_notices_bind h with hread | ⟨m, hend⟩
  · exact DiagramBridge.mem_notices_read_of_toMermaid
      (LooseText.mem_notices_text_of_toMermaid hread)
  · exact absurd hend List.not_mem_nil

/-- The page that a session in order converts is the one it has selected. -/
theorem IsInOrder.toMermaid_result {s : Session} (hs : IsInOrder s) {options : Options}
    {m : MermaidResult} (h : (toMermaid options s).result = .ok m) :
    (m.pageIndex : Int) = s.pageIndex ∧ m.pageCount = s.pages.length ∧
      ∀ index count, .pageOutOfRange index count ∉ (toMermaid options s).notices := by
  obtain ⟨drawing, hdrawing, hm⟩ := exists_drawing_of_toMermaid h
  have hpages : Drawio.pages drawing.text = .ok s.pages :=
    LooseText.pages_text_of_pages (hs.pages_eq drawing hdrawing)
  have hrange : 0 ≤ s.pageIndex ∧ s.pageIndex < s.pages.length := hs.inRange (by simp [hdrawing])
  obtain ⟨page, hpage, hindex, hcount⟩ := exists_read_of_toMermaid hm
  obtain ⟨ps, hps, hlength, hread⟩ := Drawio.exists_pages_of_read hpage
  have heq : ps = s.pages := Except.ok.inj (hps.symm.trans hpages)
  rw [Drawio.readIndex, heq, Drawio.placeOf?_of_inRange hrange, Option.getD_some] at hread
  constructor
  · rw [hindex, hread]
    exact Int.toNat_of_nonneg hrange.1
  constructor
  · rw [hcount, hlength, heq]
  · intro index count hmem
    have hnotice := mem_notices_read_of_toMermaid hdrawing hmem
    rw [Drawio.notices_read hpages hrange] at hnotice
    exact absurd hnotice List.not_mem_nil

/-- After every run a session is in order, it selects the pages that it has and no others, and a
page that it converts is the one it has selected. -/
theorem run_isInOrder (commands : List Command) :
    IsInOrder (run commands empty) ∧
    (∀ index, (∃ page, (selectPage index (run commands empty)).result = .ok page) ↔
      (run commands empty).drawing.isSome = true ∧ 0 ≤ index ∧
        index < (run commands empty).pages.length) ∧
    ∀ options m, (toMermaid options (run commands empty)).result = .ok m →
      (m.pageIndex : Int) = (run commands empty).pageIndex ∧
      m.pageCount = (run commands empty).pages.length ∧
      ∀ index count,
        .pageOutOfRange index count ∉ (toMermaid options (run commands empty)).notices := by
  have horder := isInOrder_run commands
  exact ⟨horder, fun _ => exists_selectPage_iff, fun _ _ => horder.toMermaid_result⟩

/-- A file of an empty page and of a page with one node. -/
def twoPages : LooseText :=
  .ofString ("<mxfile><diagram/><diagram name=\"B\"><mxGraphModel>" ++
    "<mxCell id=\"n\" value=\"N\" vertex=\"1\"/></mxGraphModel></diagram></mxfile>")

/-- The second page is selected, then a third one and a drawing without an end are refused. -/
theorem run_isInOrder_twoPages :
    let s := run [.loadDrawing twoPages, .selectPage 1, .selectPage 2,
      .loadDrawing (.ofString "<mxfile")] empty
    s.pages = [⟨"0", "Page 1", 0⟩, ⟨"1", "B", 1⟩] ∧ s.pageIndex = 1 ∧ IsInOrder s ∧
      (∃ page, (selectPage 0 s).result = .ok page) ∧
      (¬ ∃ page, (selectPage 2 s).result = .ok page) ∧
      ∃ m, (toMermaid {} s).result = .ok m ∧ m.pageIndex = 1 ∧ m.pageCount = 2 ∧
        .pageOutOfRange 1 2 ∉ (toMermaid {} s).notices := by
  have hrun : run [.loadDrawing twoPages, .selectPage 1, .selectPage 2,
      .loadDrawing (.ofString "<mxfile")] empty =
        ⟨some twoPages, none, [⟨"0", "Page 1", 0⟩, ⟨"1", "B", 1⟩], 1⟩ := by
    decide +kernel
  obtain ⟨horder, hselect, hconvert⟩ := run_isInOrder
    [.loadDrawing twoPages, .selectPage 1, .selectPage 2, .loadDrawing (.ofString "<mxfile")]
  rw [hrun] at horder hselect hconvert ⊢
  have hm : (toMermaid {} ⟨some twoPages, none, [⟨"0", "Page 1", 0⟩, ⟨"1", "B", 1⟩], 1⟩).result =
      .ok ⟨"flowchart TD\n    n[N]\n", .flowchart, 1, 2⟩ := by
    decide +kernel
  obtain ⟨hindex, hcount, hnotices⟩ := hconvert _ _ hm
  exact ⟨rfl, rfl, horder, (hselect 0).2 (by decide), mt (hselect 2).1 (by decide), _, hm,
    Int.ofNat_inj.1 hindex, hcount, hnotices 1 2⟩

end DiagramBridge.Session
