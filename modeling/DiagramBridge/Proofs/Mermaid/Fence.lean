import DiagramBridge.Mermaid.Reader
import DiagramBridge.Mermaid.Writer
import DiagramBridge.Proofs.Mermaid.Statements

/-!
# Fenced blocks

Markdown shows a diagram as a fenced block. A text is such a block when an opening fence with the
name of the language begins it and a closing fence ends it; whatever stands between is the body, and
the fences that the body may have of its own are lines like others. So a text that is put between
fences says what it says without them.
-/

namespace DiagramBridge.Mermaid

open Text

/-! ## The last line feed -/

theorem afterLastLineFeed?_append {s : List Char} (h : '\n' ∉ s) (front : List Char) :
    afterLastLineFeed? (front ++ '\n' :: s) = some s := by
  have hrest : ∀ c ∈ s.reverse, (c != '\n') = true := fun c hc =>
    bne_iff_ne.2 (ne_of_mem_of_not_mem (List.mem_reverse.1 hc) h)
  have hreverse : (front ++ '\n' :: s).reverse = s.reverse ++ '\n' :: front.reverse := by simp
  rw [afterLastLineFeed?, hreverse, span_append_of_stops hrest (by simp)]
  simp

theorem exists_append_lineFeed {s : List Char} (h : '\n' ∈ s) :
    ∃ front t, s = front ++ '\n' :: t ∧ '\n' ∉ t := by
  obtain ⟨t, front, heq, ht⟩ := List.eq_append_cons_of_mem (List.mem_reverse.2 h)
  refine ⟨front.reverse, t.reverse, ?_, fun hmem => ht (List.mem_reverse.1 hmem)⟩
  rw [← List.reverse_reverse s, heq]
  simp

theorem afterLastLineFeed?_eq_some {s t : List Char} (h : afterLastLineFeed? s = some t) :
    ∃ front, s = front ++ '\n' :: t := by
  by_cases hmem : '\n' ∈ s
  · obtain ⟨front, u, rfl, hu⟩ := exists_append_lineFeed hmem
    rw [afterLastLineFeed?_append hu, Option.some.injEq] at h
    exact ⟨front, by rw [h]⟩
  · have hall : ∀ c ∈ s.reverse, (c != '\n') = true := fun c hc =>
      bne_iff_ne.2 (ne_of_mem_of_not_mem (List.mem_reverse.1 hc) hmem)
    rw [afterLastLineFeed?, span_of_forall hall] at h
    exact absurd h (by simp)

/-- What is behind the last line feed is what ends the text behind any of them. -/
theorem exists_afterLastLineFeed?_eq (front s : List Char) :
    ∃ x t, s = x ++ t ∧ afterLastLineFeed? (front ++ '\n' :: s) = some t := by
  by_cases h : '\n' ∈ s
  · obtain ⟨x, t, rfl, ht⟩ := exists_append_lineFeed h
    refine ⟨x ++ ['\n'], t, by simp, ?_⟩
    have happend : front ++ '\n' :: (x ++ '\n' :: t) = (front ++ '\n' :: x) ++ '\n' :: t := by simp
    rw [happend, afterLastLineFeed?_append ht]
  · exact ⟨[], s, rfl, afterLastLineFeed?_append h front⟩

/-! ## Blocks -/

/-- A text that is one fenced block: white space, a fence, the name of the language in any letter
case, white space with a line feed in it, a body, a fence, and white space. -/
inductive IsFencedBlock : List Char → Prop where
  | intro {before gap name blank body after : List Char}
      (hbefore : ∀ c ∈ before, isBlank c = true) (hgap : ∀ c ∈ gap, isBlank c = true)
      (hname : name.map foldLetter = "mermaid".toList) (hblank : ∀ c ∈ blank, isBlank c = true)
      (hafter : ∀ c ∈ after, isBlank c = true) :
      IsFencedBlock (before ++ (fence.toList ++ (gap ++ (name ++ (blank ++ '\n' :: (body ++
        (fence.toList ++ after)))))))

/-- What is read as a fenced block is one. -/
theorem isFencedBlock_of_fencedBody? {s body : List Char} (h : fencedBody? s = some body) :
    IsFencedBlock s := by
  simp only [fencedBody?, Option.bind_eq_bind, Option.bind_eq_some_iff,
    List.span_eq_takeWhile_dropWhile] at h
  obtain ⟨u, hfence, v, hname, indent, hindent, front, hfront, -⟩ := h
  rw [after?_eq_some_iff] at hfence
  rw [beforeEnd?_eq_some_iff] at hfront
  obtain ⟨before, hbefore, hs⟩ := exists_eq_append_trimStart s
  obtain ⟨gap, hgap, hu⟩ := exists_eq_append_trimStart u
  obtain ⟨name, hv, hfold⟩ := afterKeyword?_eq_some hname
  obtain ⟨blank, hblank⟩ := afterLastLineFeed?_eq_some hindent
  obtain ⟨after, hafter, hend⟩ := exists_eq_trimEnd_append (indent ++ v.dropWhile isBlank)
  have hbody : v = blank ++ '\n' :: (front ++ (fence.toList ++ after)) := by
    calc v = v.takeWhile isBlank ++ v.dropWhile isBlank := List.takeWhile_append_dropWhile.symm
      _ = blank ++ '\n' :: (indent ++ v.dropWhile isBlank) := by rw [hblank]; simp
      _ = blank ++ '\n' :: (front ++ (fence.toList ++ after)) := by
        rw [hend, ← hfront, List.append_assoc]
  rw [hs, ← hfence, hu, hv, hbody]
  refine .intro hbefore hgap hfold (fun c hc => ?_) hafter
  exact List.all_eq_true.1 List.all_takeWhile c (hblank ▸ List.mem_append_left _ hc)

/-! ## Reading blocks -/

theorem stops_name {name : List Char} (hname : name.map foldLetter = "mermaid".toList)
    (s : List Char) : Stops isBlank (name ++ s) := by
  cases name with
  | nil => exact absurd hname (by decide)
  | cons c name =>
      rw [List.cons_append, stops_cons_iff]
      have hc : foldLetter c = 'm' := (List.cons.inj hname).1
      by_contra hblank
      rw [Bool.not_eq_false] at hblank
      rw [foldLetter_of_isBlank hblank] at hc
      rw [hc] at hblank
      exact absurd hblank (by decide)

section

variable {before gap name blank after : List Char} (hbefore : ∀ c ∈ before, isBlank c = true)
  (hgap : ∀ c ∈ gap, isBlank c = true) (hname : name.map foldLetter = "mermaid".toList)
include hbefore hgap hname

/-- Behind the opening fence it goes on at the last line feed of the white space there. -/
theorem fencedBody?_opening (s : List Char) :
    fencedBody? (before ++ (fence.toList ++ (gap ++ (name ++ s)))) =
      (afterLastLineFeed? (s.takeWhile isBlank)).bind fun indent =>
        (beforeEnd? fence (trimEnd (indent ++ s.dropWhile isBlank))).map trimEnd := by
  have hfence : Stops isBlank fence.toList := by decide
  have hopen : trimStart (before ++ (fence.toList ++ (gap ++ (name ++ s)))) =
      fence.toList ++ (gap ++ (name ++ s)) := by
    rw [trimStart_append hbefore, trimStart_of_stops (hfence.append (by decide))]
  have hlanguage : trimStart (gap ++ (name ++ s)) = name ++ s := by
    rw [trimStart_append hgap, trimStart_of_stops (stops_name hname s)]
  rw [fencedBody?, hopen, after?_append, Option.bind_eq_bind, Option.bind_some, hlanguage, ← hname,
    afterKeyword?_map]
  simp only [Option.bind_some, List.span_eq_takeWhile_dropWhile, Option.map_eq_bind,
    Function.comp_def]

variable (hblank : ∀ c ∈ blank, isBlank c = true) (hafter : ∀ c ∈ after, isBlank c = true)
include hblank hafter

/-- A block is read as its body, up to the white space around it. The white space in front of the
body may be part of the opening line; fences in the body are not at the end of the text. -/
theorem exists_fencedBody?_eq (body : List Char) :
    ∃ t, trim t = trim body ∧ fencedBody? (before ++ (fence.toList ++ (gap ++ (name ++ (blank ++
      '\n' :: (body ++ (fence.toList ++ after))))))) = some t := by
  have hstart : Stops isBlank fence.toList := by decide
  have hend : Stops isBlank fence.toList.reverse := by decide
  have hfence : Stops isBlank (fence.toList ++ after) := hstart.append (by decide)
  let w := (body ++ (fence.toList ++ after)).takeWhile isBlank
  let r := (body ++ (fence.toList ++ after)).dropWhile isBlank
  have hwr : w ++ r = body ++ (fence.toList ++ after) := List.takeWhile_append_dropWhile
  have hw : ∀ c ∈ w, isBlank c = true := fun c hc => List.all_eq_true.1 List.all_takeWhile c hc
  have hr : Stops isBlank r := stops_dropWhile isBlank _
  have hrun : ∀ c ∈ blank ++ '\n' :: w, isBlank c = true := by
    intro c hc
    rcases List.mem_append.1 hc with hc | hc
    · exact hblank c hc
    · rcases List.mem_cons.1 hc with rfl | hc
      · decide
      · exact hw c hc
  have hsplit : blank ++ '\n' :: (body ++ (fence.toList ++ after)) = (blank ++ '\n' :: w) ++ r := by
    rw [← hwr]
    simp
  obtain ⟨x, indent, hx, hindent⟩ := exists_afterLastLineFeed?_eq blank w
  -- The white space at the front ends with the body or in it, since a fence is none.
  obtain ⟨v, hv⟩ : w <+: body := isPrefix_of_append hw hfence ⟨r, hwr⟩
  have hrest : r = v ++ (fence.toList ++ after) := by
    rw [← hv, List.append_assoc] at hwr
    exact List.append_cancel_left hwr
  have htrimEnd : trimEnd (indent ++ r) = (indent ++ v) ++ fence.toList := by
    rw [hrest, ← List.append_assoc, ← List.append_assoc, trimEnd_append hafter,
      trimEnd_of_stops (stops_reverse_append hend (by decide) _)]
  have hbody : body = x ++ (indent ++ v) := by rw [← hv, hx, List.append_assoc]
  refine ⟨trimEnd (indent ++ v), ?_, ?_⟩
  · have hxblank : ∀ c ∈ x, isBlank c = true := fun c hc => hw c (hx ▸ List.mem_append_left _ hc)
    have htrim := trim_of_blank_around hxblank (e := []) (by simp) (indent ++ v)
    rw [List.append_nil] at htrim
    rw [hbody, htrim, trim_trimEnd]
  · rw [fencedBody?_opening hbefore hgap hname, hsplit, takeWhile_append_of_stops hrun hr,
      dropWhile_append_of_stops hrun hr, hindent, Option.bind_some, htrimEnd, beforeEnd?_append,
      Option.map_some]

/-- A block has the statements of its body. -/
theorem statements_fenced (body : List Char) :
    statements (before ++ (fence.toList ++ (gap ++ (name ++ (blank ++ '\n' :: (body ++
      (fence.toList ++ after))))))) = statementsOf (lines body) := by
  obtain ⟨t, htrim, ht⟩ := exists_fencedBody?_eq hbefore hgap hname hblank hafter body
  rw [statements, unfence, ht, Option.getD_some]
  exact statementsOf_lines_of_trim_eq htrim

end

/-- The texts that are read as a fenced block are the fenced blocks. -/
theorem isSome_fencedBody?_iff {s : List Char} :
    (fencedBody? s).isSome = true ↔ IsFencedBlock s := by
  constructor
  · intro h
    obtain ⟨body, hbody⟩ := Option.isSome_iff_exists.1 h
    exact isFencedBlock_of_fencedBody? hbody
  · rintro ⟨hbefore, hgap, hname, hblank, hafter⟩
    obtain ⟨t, -, ht⟩ := exists_fencedBody?_eq hbefore hgap hname hblank hafter _
    exact Option.isSome_iff_exists.2 ⟨t, ht⟩

instance (s : List Char) : Decidable (IsFencedBlock s) :=
  decidable_of_iff _ isSome_fencedBody?_iff

/-! ## Texts put between fences -/

/-- Between fences a text has the statements of its own lines, whatever fences are among them. -/
theorem statements_wrapMarkdown (text : String) :
    statements (wrapMarkdown text).toList = statementsOf (lines text.toList) := by
  have hwrap : (wrapMarkdown text).toList = [] ++ (fence.toList ++ ([] ++ ("mermaid".toList ++
      ([] ++ '\n' :: ((trim text.toList ++ ['\n']) ++ (fence.toList ++ ['\n'])))))) := by
    simp [wrapMarkdown]
  have htrim : trim (trim text.toList ++ ['\n']) = trim text.toList := by
    have h := trim_of_blank_around (b := []) (e := ['\n']) (by simp) (by decide) (trim text.toList)
    rwa [List.nil_append, trim_of_isTrimmed (isTrimmed_trim text.toList)] at h
  rw [hwrap, statements_fenced (by simp) (by simp) (by decide) (by simp) (by decide)]
  exact statementsOf_lines_of_trim_eq htrim

/-- What is read of a text depends on its statements only. -/
theorem read_eq_of_statements_eq {text text' : String}
    (h : statements text.toList = statements text'.toList) : read text = read text' := by
  rw [read, read, h]

/-- A text that is no fenced block itself is read the same between fences: the same diagram, or the
same refusal. -/
theorem read_wrapMarkdown {text : String} (h : ¬ IsFencedBlock text.toList) :
    read (wrapMarkdown text) = read text := by
  apply read_eq_of_statements_eq
  have hnone : fencedBody? text.toList = none := by
    rwa [← isSome_fencedBody?_iff, Option.not_isSome_iff_eq_none] at h
  rw [statements_wrapMarkdown, statements_of_fencedBody?_eq_none hnone]

/-- A text with white space at both ends, a block between its lines and a fence at its end. -/
def nestedBlockText : String :=
  "\n  sequenceDiagram\x0d\n" ++ fence ++ "mermaid\nA->>B: go;\n" ++ fence ++ "\nB-->>A: done\n" ++
    fence ++ "\n\n"

theorem read_wrapMarkdown_nestedBlockText :
    ¬ IsFencedBlock nestedBlockText.toList ∧
      read (wrapMarkdown nestedBlockText) = read nestedBlockText ∧
      (read nestedBlockText).toOption.map (·.graph.nodeIds) = some ["A", "B"] :=
  ⟨by decide +kernel, read_wrapMarkdown (by decide +kernel), by decide +kernel⟩

end DiagramBridge.Mermaid
