import DiagramBridge.Proofs.Drawio.Pages
import DiagramBridge.Proofs.Text.Search
import DiagramBridge.Proofs.Xml.Opening

/-!
# How drawings begin

Which line breaks a drawing has makes no difference to what is read. Behind the white space in front
a drawing that can be read begins with markup or with a byte-order mark.
-/

namespace DiagramBridge.Drawio

open Text

/-- Behind a byte-order mark, white space is dropped once more. -/
theorem bare_of_mark {content s : List Char} (h : trim content = '\ufeff' :: s) :
    bare content = trim s := by
  simp only [bare, h]

/-- Without a byte-order mark, only the white space around a drawing is dropped. -/
theorem bare_of_head?_ne {content : List Char} (h : (trim content).head? ≠ some '\ufeff') :
    bare content = trim content := by
  rw [bare]
  split
  · next s heq => exact absurd (by rw [heq]; rfl) h
  · rfl

theorem bare_eq (content : List Char) : bare content = trim (Xml.withoutMark (trim content)) := by
  cases htrim : trim content with
  | nil =>
      rw [bare_of_head?_ne (by simp [htrim]), htrim]
      rfl
  | cons c s =>
      by_cases hmark : c = '\ufeff'
      · subst hmark
        rw [bare_of_mark htrim]
        rfl
      · rw [bare_of_head?_ne (by simpa [htrim] using hmark), Xml.withoutMark_cons_of_ne hmark,
          ← htrim, trim_of_isTrimmed (isTrimmed_trim content)]

/-! ## Line breaks -/

theorem bare_unifyLineBreaks (content : List Char) :
    bare (unifyLineBreaks content) = unifyLineBreaks (bare content) := by
  rw [bare_eq, bare_eq, trim_unifyLineBreaks, Xml.withoutMark_unifyLineBreaks,
    trim_unifyLineBreaks]

theorem isPaged_unifyLineBreaks (content : List Char) :
    isPaged (unifyLineBreaks content) = isPaged content := by
  rw [isPaged, isPaged, Bool.eq_iff_iff, occursIn_iff, occursIn_iff,
    isInfix_unifyLineBreaks_iff (by decide) (by decide) (by decide)]

theorem parseMarkup_unifyLineBreaks (content : List Char) :
    parseMarkup (unifyLineBreaks content) = parseMarkup content := by
  simp only [parseMarkup, Xml.read?, String.toList_ofList, Xml.readChars?_unifyLineBreaks]

theorem select_unifyLineBreaks (content : List Char) (index : Int) :
    select (unifyLineBreaks content) index = select content index := by
  rw [select, select, parseMarkup_unifyLineBreaks, isPaged_unifyLineBreaks]

theorem read_unifyLineBreaks (text : String) (index : Int) :
    read (onChars unifyLineBreaks text) index = read text index := by
  have hempty (s : List Char) : (unifyLineBreaks s).isEmpty = s.isEmpty := by
    rw [Bool.eq_iff_iff, List.isEmpty_iff, List.isEmpty_iff, unifyLineBreaks_eq_nil_iff]
  rw [read, read, onChars, String.toList_ofList, bare_unifyLineBreaks]
  simp only [hempty, select_unifyLineBreaks]

/-! ## The first character -/

/-- A text that is an element begins with markup or with a byte-order mark. -/
theorem eq_of_parseMarkup {c : Char} {s : List Char} {root : Xml.Element}
    (h : parseMarkup (c :: s) = .ok root) (hblank : isBlank c = false) :
    c = '<' ∨ c = '\ufeff' := by
  rw [parseMarkup] at h
  split at h
  · next e hread =>
    rw [Xml.read?, String.toList_ofList] at hread
    exact or_iff_not_imp_right.2 fun hmark => Xml.eq_lt_of_readChars? hread hmark hblank
  · exact absurd h (by simp)

/-- Behind the white space in front, a drawing that can be read begins with markup or with a
byte-order mark. -/
theorem head?_of_read {text : String} {index : Int} {reading : Reading}
    (h : (read text index).result = .ok reading) :
    (trimStart text.toList).head? = some '<' ∨ (trimStart text.toList).head? = some '\ufeff' := by
  obtain ⟨hne, selection, hselection, -⟩ := exists_select_of_read h
  rw [select, Report.result_bind_eq_ok_iff] at hselection
  obtain ⟨root, hroot, -⟩ := hselection
  rw [Report.result_ofExcept] at hroot
  cases htrim : trim text.toList with
  | nil =>
      rw [bare_of_head?_ne (by simp [htrim]), htrim] at hne
      exact absurd rfl hne
  | cons c s =>
      have hstart : (trimStart text.toList).head? = some c := by
        obtain ⟨e, he⟩ := isPrefix_trimEnd (trimStart text.toList)
        rw [trim] at htrim
        rw [← he, htrim]
        rfl
      by_cases hmark : c = '\ufeff'
      · exact Or.inr (hmark ▸ hstart)
      · have hbare : bare text.toList = c :: s := by
          rw [bare_of_head?_ne (by simpa [htrim] using hmark), htrim]
        have hblank : isBlank c = false := by
          have hstops := (isTrimmed_trim text.toList).1
          rwa [htrim, stops_cons_iff] at hstops
        rw [hbare] at hroot
        rw [hstart]
        exact (eq_of_parseMarkup hroot hblank).imp (congrArg some) (congrArg some)

end DiagramBridge.Drawio
