import DiagramBridge.Drawio.Reader
import DiagramBridge.Proofs.Report
import Mathlib.Data.List.Enum
import Mathlib.Tactic.Common

/-!
# The list of pages and the page that is read

Pages are listed without being read, and a page is read without being listed; both look at the text
of the drawing for themselves. They agree: of a drawing that can be listed, the page with a number
from the list is the one that is read, and nothing is noticed about it.
-/

namespace DiagramBridge.Drawio

theorem placeOf?_of_inRange {index : Int} {count : Nat} (h : 0 ≤ index ∧ index < count) :
    placeOf? index count = some index.toNat :=
  if_pos h

theorem placeOf?_isSome_iff {index : Int} {count : Nat} :
    (placeOf? index count).isSome = true ↔ 0 ≤ index ∧ index < count := by
  rw [placeOf?]
  split_ifs with h
  · simp [h]
  · simp [h]

/-- The pages that elements are listed as. Without an element there still is a page. -/
def listedAs : List Xml.Element → List Page
  | [] => [solePage]
  | elements => elements.zipIdx.map fun (e, index) => Page.ofElement e index

theorem listedAs_ne_nil (elements : List Xml.Element) : listedAs elements ≠ [] := by
  cases elements with
  | nil => simp [listedAs]
  | cons e elements => simp [listedAs]

theorem length_listedAs_cons (e : Xml.Element) (elements : List Xml.Element) :
    (listedAs (e :: elements)).length = (e :: elements).length := by
  rw [listedAs, List.length_map, List.length_zipIdx]
  simp

/-- A list of pages counts them from zero. -/
theorem map_index_listedAs (elements : List Xml.Element) :
    (listedAs elements).map (·.index) = List.range (listedAs elements).length := by
  cases elements with
  | nil => rfl
  | cons e elements =>
      rw [length_listedAs_cons, listedAs, List.map_map, List.range_eq_range']
      · exact List.zipIdx_map_snd 0 _
      · simp

/-- The elements of the pages of a drawing. -/
def pageElements (content : List Char) : Except ConversionError (List Xml.Element) :=
  if isPaged content then (parseMarkup content).map (·.descendantsTagged pageTag) else .ok []

theorem pages_eq (text : String) :
    pages text = (pageElements (bare text.toList)).map listedAs := by
  rw [pages, pageElements]
  cases hpaged : isPaged (bare text.toList) with
  | false => rfl
  | true =>
      cases hroot : parseMarkup (bare text.toList) with
      | error e => rfl
      | ok root =>
          change (match root.descendantsTagged pageTag with
            | [] => Except.ok [solePage]
            | elements => .ok (elements.zipIdx.map fun (e, index) => Page.ofElement e index)) =
              .ok (listedAs (root.descendantsTagged pageTag))
          cases root.descendantsTagged pageTag with
          | nil => rfl
          | cons e elements => rfl

/-- Every list of pages has a page, and it counts its pages from zero. -/
theorem ne_nil_and_map_index_of_pages {text : String} {ps : List Page}
    (h : pages text = .ok ps) : ps ≠ [] ∧ ps.map (·.index) = List.range ps.length := by
  rw [pages_eq] at h
  cases helements : pageElements (bare text.toList) with
  | error e =>
      rw [helements] at h
      exact absurd h (by simp [Except.map])
  | ok elements =>
      rw [helements] at h
      rw [← Except.ok.inj h]
      exact ⟨listedAs_ne_nil elements, map_index_listedAs elements⟩

/-! ## The page that is read -/

/-- The page with the given number, or else the first one. -/
def readIndex (index : Int) (count : Nat) : Nat :=
  (placeOf? index count).getD 0

theorem selectAmong_result {first : Xml.Element} {others : List Xml.Element} {index : Int}
    {selection : Selection} (h : (selectAmong first others index).result = .ok selection) :
    selection.pageCount = (first :: others).length ∧
      selection.pageIndex = readIndex index (first :: others).length := by
  rw [selectAmong] at h
  rw [readIndex]
  cases hplace : placeOf? index (first :: others).length with
  | none =>
      simp only [hplace, Report.result_tell_bind, Report.result_bind_eq_ok_iff] at h
      obtain ⟨model, -, hmodel⟩ := h
      rw [← Except.ok.inj hmodel]
      exact ⟨rfl, rfl⟩
  | some place =>
      simp only [hplace, Report.result_bind_eq_ok_iff] at h
      obtain ⟨model, -, hmodel⟩ := h
      rw [← Except.ok.inj hmodel]
      exact ⟨rfl, rfl⟩

theorem notices_selectAmong {first : Xml.Element} {others : List Xml.Element} {index : Int}
    (h : 0 ≤ index ∧ index < (first :: others).length) :
    (selectAmong first others index).notices = [] := by
  simp only [selectAmong, placeOf?_of_inRange h]
  exact Report.notices_bind_eq_nil rfl fun _ _ => rfl

/-- A page that is selected without an error is one of the list, and the one that was asked for if
the list has it. -/
theorem exists_pages_of_select {text : String} {index : Int} {selection : Selection}
    (h : (select (bare text.toList) index).result = .ok selection) :
    ∃ ps, pages text = .ok ps ∧ selection.pageCount = ps.length ∧
      selection.pageIndex = readIndex index ps.length := by
  have hsole : readIndex index 1 = 0 := by
    rw [readIndex, placeOf?]
    split_ifs with hplace
    · have hzero : index = 0 := by omega
      rw [hzero]
      rfl
    · rfl
  rw [select, Report.result_bind_eq_ok_iff] at h
  obtain ⟨root, hroot, h⟩ := h
  rw [Report.result_ofExcept] at hroot
  rw [pages_eq, pageElements, hroot]
  cases hpaged : isPaged (bare text.toList) with
  | false =>
      rw [hpaged] at h
      rw [← Except.ok.inj h]
      exact ⟨[solePage], rfl, rfl, hsole.symm⟩
  | true =>
      simp only [hpaged, Bool.not_true, Bool.false_eq_true, if_false] at h
      refine ⟨listedAs (root.descendantsTagged pageTag), rfl, ?_⟩
      cases helements : root.descendantsTagged pageTag with
      | nil =>
          simp only [helements] at h
          rw [← Except.ok.inj h]
          exact ⟨rfl, hsole.symm⟩
      | cons first others =>
          simp only [helements] at h
          rw [length_listedAs_cons]
          exact selectAmong_result h

/-- Nothing is noticed about a page that the list has. -/
theorem notices_select {text : String} {index : Int} {ps : List Page} (h : pages text = .ok ps)
    (hindex : 0 ≤ index ∧ index < ps.length) :
    (select (bare text.toList) index).notices = [] := by
  apply Report.notices_bind_eq_nil rfl
  intro root hroot
  rw [Report.result_ofExcept] at hroot
  cases hpaged : isPaged (bare text.toList) with
  | false => rfl
  | true =>
      rw [pages_eq, pageElements, hpaged, if_pos rfl, hroot] at h
      have hps : listedAs (root.descendantsTagged pageTag) = ps := Except.ok.inj h
      simp only [Bool.not_true, Bool.false_eq_true, if_false]
      cases helements : root.descendantsTagged pageTag with
      | nil => rfl
      | cons first others =>
          rw [← hps, helements, length_listedAs_cons] at hindex
          exact notices_selectAmong hindex

/-- What is read of a drawing is the graph of the page that is selected, and it has nodes. -/
theorem exists_select_of_read {text : String} {index : Int} {reading : Reading}
    (h : (read text index).result = .ok reading) :
    bare text.toList ≠ [] ∧ ∃ selection,
      (select (bare text.toList) index).result = .ok selection ∧
        (extract (cells selection.model)).nodes ≠ [] ∧
          reading = ⟨extract (cells selection.model), selection.pageIndex, selection.pageCount⟩ := by
  rw [read] at h
  dsimp only at h
  split_ifs at h with hempty
  · exact absurd h (by simp [Report.result_ofExcept])
  · obtain ⟨selection, hselection, h⟩ := Report.result_bind_eq_ok_iff.1 h
    split_ifs at h with hnodes
    · exact absurd h (by simp [Report.result_ofExcept])
    · exact ⟨fun hnil => hempty (List.isEmpty_iff.2 hnil), selection, hselection,
        fun hnil => hnodes (List.isEmpty_iff.2 hnil), (Except.ok.inj h).symm⟩

theorem exists_pages_of_read {text : String} {index : Int} {reading : Reading}
    (h : (read text index).result = .ok reading) :
    ∃ ps, pages text = .ok ps ∧ reading.pageCount = ps.length ∧
      reading.pageIndex = readIndex index ps.length := by
  obtain ⟨-, selection, hselection, -, rfl⟩ := exists_select_of_read h
  exact exists_pages_of_select hselection

theorem notices_read {text : String} {index : Int} {ps : List Page} (h : pages text = .ok ps)
    (hindex : 0 ≤ index ∧ index < ps.length) : (read text index).notices = [] := by
  rw [read]
  dsimp only
  split_ifs with hempty
  · rfl
  · apply Report.notices_bind_eq_nil (notices_select h hindex)
    intro selection _
    split_ifs
    · rfl
    · rfl

/-- Every drawing has a first page, so nothing is noticed about it. -/
theorem notices_read_zero {text : String} {reading : Reading}
    (h : (read text 0).result = .ok reading) : (read text 0).notices = [] := by
  obtain ⟨ps, hps, -⟩ := exists_pages_of_read h
  have hpos : 0 < ps.length := List.length_pos_iff.2 (ne_nil_and_map_index_of_pages hps).1
  exact notices_read hps ⟨Int.le_refl 0, Int.natCast_pos.2 hpos⟩

theorem readIndex_eq_ite (index : Int) (count : Nat) :
    (readIndex index count : Int) = if 0 ≤ index ∧ index < count then index else 0 := by
  rw [readIndex, placeOf?]
  split_ifs with h
  · exact Int.toNat_of_nonneg h.1
  · rfl

/-- A drawing of which a page is read can be listed. The list counts its pages from zero; the page
that was read is the one that was asked for if the list has it, and otherwise the first. -/
theorem listed_of_read {text : String} {index : Int} {reading : Reading}
    (h : (read text index).result = .ok reading) :
    ∃ ps, pages text = .ok ps ∧ ps.map (·.index) = List.range ps.length ∧
      reading.pageCount = ps.length ∧
      (reading.pageIndex : Int) = if 0 ≤ index ∧ index < ps.length then index else 0 := by
  obtain ⟨ps, hps, hcount, hindex⟩ := exists_pages_of_read h
  refine ⟨ps, hps, (ne_nil_and_map_index_of_pages hps).2, hcount, ?_⟩
  rw [hindex, readIndex_eq_ite]

/-- A file of a page with one node, inside which a page without a name stands. -/
def nestedPages : String :=
  "\ufeff <mxfile><diagram><mxGraphModel><mxCell id=\"n\" vertex=\"1\"/></mxGraphModel>" ++
    "<diagram id=\"d\"/></diagram></mxfile>"

/-- Both pages are listed. In place of a page before the first one, the first one is read. -/
theorem listed_of_read_nestedPages :
    ∃ reading, (read nestedPages (-1)).result = .ok reading ∧
      pages nestedPages = .ok [⟨"0", "Page 1", 0⟩, ⟨"d", "Page 2", 1⟩] ∧
      reading.pageCount = 2 ∧ reading.pageIndex = 0 := by
  have hlisted : pages nestedPages = .ok [⟨"0", "Page 1", 0⟩, ⟨"d", "Page 2", 1⟩] := by
    decide +kernel
  cases hread : (read nestedPages (-1)).result with
  | error e =>
      have hok : (read nestedPages (-1)).result.isOk = true := by decide +kernel
      rw [hread] at hok
      exact absurd hok (by simp [Except.isOk, Except.toBool])
  | ok reading =>
      obtain ⟨ps, hps, -, hcount, hindex⟩ := listed_of_read hread
      obtain rfl := Except.ok.inj (hlisted.symm.trans hps)
      exact ⟨reading, rfl, hlisted, hcount, Int.ofNat_inj.1 hindex⟩

end DiagramBridge.Drawio
