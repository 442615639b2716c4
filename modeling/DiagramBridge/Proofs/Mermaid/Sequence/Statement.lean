import DiagramBridge.Mermaid.Sequence.Reader
import DiagramBridge.Proofs.Text.Blank
import DiagramBridge.Proofs.Text.Search

/-!
# Reading written participants and messages

A declaration is read whatever its label says, since the label is taken as it stands up to the end of
the line. A message is no declaration, for the word at its front goes on up to a mark that no keyword
has. Its arrow begins with a dash, and no dash stands in a word, so the name on the left is read up to
the arrow; its text is whatever stands behind the colon.
-/

namespace DiagramBridge.Mermaid.Sequence

open Text

/-! ## Participants -/

/-- The words that declare a participant. -/
def keyword (actor : Bool) : String :=
  if actor then "actor" else "participant"

theorem declared?_of_stops {s : List Char} (h : Stops isBlank s) (actor : Bool) :
    declared? actor s = none := by
  cases s with
  | nil => rfl
  | cons c s => rw [declared?, stops_cons_iff.1 h]; rfl

/-- Behind the keyword stand the id and what gives the name to show. -/
theorem declared?_written (actor : Bool) {id mark label : List Char} (hne : id ≠ [])
    (hid : ∀ c ∈ id, isWord c = true) (hmark : Stops (!isBlank ·) mark)
    (halias : alias? id mark = some label) :
    declared? actor (' ' :: (id ++ mark)) = some (.participant id label actor) := by
  have hblank : ∀ c ∈ id, isBlank c = false := fun c hc => isBlank_of_isWord (hid c hc)
  have hspace : isBlank ' ' = true := by decide
  have hspan : (trimStart (id ++ mark)).span (!isBlank ·) = (id, mark) := by
    rw [trimStart_of_stops ((stops_of_forall hblank).append hne)]
    exact span_append_of_stops (fun c hc => by simp [hblank c hc]) hmark
  rw [declared?, hspace]
  simp only [hspan, Bool.not_true, Bool.false_eq_true, if_false]
  rw [if_neg (by simpa using hne), halias]
  rfl

theorem alias?_nil {id : List Char} (hid : ∀ c ∈ id, isWord c = true) : alias? id [] = some id := by
  rw [alias?.eq_def]
  dsimp only
  rw [trim_of_isTrimmed (isTrimmed_of_forall fun c hc => isBlank_of_isWord (hid c hc))]

theorem alias?_as (id : List Char) {label : List Char} (hne : label ≠ []) (h : IsTrimmed label) :
    alias? id (" as ".toList ++ label) = some label := by
  have hsplit : " as ".toList ++ label = ' ' :: ("as".toList ++ ' ' :: label) := rfl
  have htrim : trim label = label := trim_of_isTrimmed h
  have hafter : afterKeyword? "as".toList (trimStart (' ' :: ("as".toList ++ ' ' :: label))) =
      some (' ' :: label) :=
    afterKeyword?_append (by decide) _
  have hspace : (isBlank ' ' && !(trimStart label).isEmpty) = true := by
    rw [trimStart_of_stops h.1]
    simpa using ⟨by decide, hne⟩
  rw [hsplit, alias?.eq_def]
  simp only [hafter, hspace, if_true, htrim]

theorem participant?_keyword (actor : Bool) (s : List Char) :
    participant? ((keyword actor).toList ++ s) = declared? actor s := by
  cases actor with
  | false =>
      have h : afterKeyword? "participant".toList ("participant".toList ++ s) = some s :=
        afterKeyword?_append (by decide) s
      rw [participant?, keyword, if_neg (by simp), h]
  | true =>
      have hother : afterKeyword? "participant".toList ("actor".toList ++ s) = none := rfl
      have h : afterKeyword? "actor".toList ("actor".toList ++ s) = some s :=
        afterKeyword?_append (by decide) s
      rw [participant?, keyword, if_pos rfl, hother, h]
      rfl

/-- A line that has a mark before its first white space declares nothing. -/
theorem participant?_eq_none {s rest : List Char} {c : Char} (hs : ∀ d ∈ s, isBlank d = false)
    (hc : isBlank c = false) (hfold : ∀ actor, foldLetter c ∉ (keyword actor).toList) :
    participant? (s ++ c :: rest) = none := by
  have hstops : ∀ actor t, afterKeyword? (keyword actor).toList (s ++ c :: rest) = some t →
      declared? actor t = none := by
    intro actor t h
    obtain ⟨w, hline, hw⟩ := afterKeyword?_eq_some h
    have hmark : ∀ d ∈ w, (d != c) = true := by
      intro d hd
      simpa using fun heq : d = c => hfold actor (hw ▸ heq ▸ List.mem_map_of_mem hd)
    obtain ⟨u, rfl⟩ : w <+: s := isPrefix_of_append hmark (stops_cons_iff.2 (by simp)) ⟨t, hline.symm⟩
    rw [List.append_assoc] at hline
    rw [← List.append_cancel_left hline]
    refine declared?_of_stops ?_ actor
    cases u with
    | nil => exact stops_cons_iff.2 hc
    | cons d u => exact stops_cons_iff.2 (hs d (by simp))
  rw [participant?]
  split
  · next t h => exact hstops false t h
  · cases h : afterKeyword? "actor".toList (s ++ c :: rest) with
    | none => rfl
    | some t => exact hstops true t h

/-! ## Messages -/

theorem isNameChar_of_isWord {c : Char} (hc : isWord c = true) : isNameChar c = true := by
  have hcolon : c ≠ ':' := ne_of_isWord hc (by decide)
  simp [isNameChar, isBlank_of_isWord hc, hcolon]

theorem isBlank_of_isNameChar {c : Char} (h : isNameChar c = true) : isBlank c = false := by
  rw [isNameChar, Bool.and_eq_true, Bool.not_eq_true'] at h
  exact h.1

/-- The receiver ends at the colon, and the text behind it is trimmed. -/
theorem receiver?_labelled {target : List Char} (hne : target ≠ [])
    (htarget : ∀ c ∈ target, isNameChar c = true) (label : List Char) :
    receiver? (target ++ ':' :: label) = some (target, trim label) := by
  have hblank : Stops isBlank (target ++ ':' :: label) :=
    (stops_of_forall fun c hc => isBlank_of_isNameChar (htarget c hc)).append hne
  have hcolon : isBlank ':' = false := by decide
  have hspan : (target ++ ':' :: label).span isNameChar = (target, ':' :: label) :=
    span_append_of_stops htarget (stops_cons_iff.2 (by decide))
  rw [receiver?, trimStart_of_stops hblank, hspan]
  simp only [List.isEmpty_iff, if_neg hne, trimStart_cons_of_not_blank hcolon]

/-- A letter behind an arrow is no mark of its own. -/
theorem marked?_of_trimStart {s t : List Char} {c : Char} (hc : isWord c = true)
    (hs : trimStart s = c :: t) : marked? s = receiver? (c :: t) := by
  have hsign : ¬ (c = '+' ∨ c = '-') := by
    rintro (rfl | rfl)
    · exact absurd hc (by decide)
    · exact absurd hc (by decide)
  rw [marked?, hs]
  simp only [hsign, Bool.or_eq_true, decide_eq_true_eq, if_false]

/-- A receiver without the mark in front of it. -/
def unmarked : List Char → List Char
  | '+' :: s => s
  | '-' :: s => s
  | s => s

theorem unmarked_of_isWord {c : Char} (hc : isWord c = true) (s : List Char) :
    unmarked (c :: s) = c :: s := by
  rw [unmarked.eq_def]
  split
  · next heq => exact absurd ((List.cons.inj heq).1 ▸ hc) (by decide)
  · next heq => exact absurd ((List.cons.inj heq).1 ▸ hc) (by decide)
  · rfl

/-- One mark in front of a receiver is dropped if something is left. -/
theorem marked?_labelled {target : List Char} (hne : unmarked target ≠ [])
    (htarget : ∀ c ∈ target, isNameChar c = true) (label : List Char) :
    marked? (target ++ ':' :: label) = some (unmarked target, trim label) := by
  cases target with
  | nil => exact absurd rfl hne
  | cons c target =>
      have hblank : isBlank c = false := isBlank_of_isNameChar (htarget c (by simp))
      rw [marked?, List.cons_append, trimStart_cons_of_not_blank hblank]
      by_cases hsign : c = '+' ∨ c = '-'
      · have hdrop : unmarked (c :: target) = target := by
          rcases hsign with rfl | rfl <;> rfl
        rw [hdrop] at hne
        have hread := receiver?_labelled hne (fun d hd => htarget d (by simp [hd])) label
        simp only [Bool.or_eq_true, decide_eq_true_eq, hsign, if_true, hread, hdrop,
          Option.some_or]
      · have hkeep : unmarked (c :: target) = c :: target := by
          rw [unmarked.eq_def]
          split
          · next heq => exact absurd (Or.inl (List.cons.inj heq).1) hsign
          · next heq => exact absurd (Or.inr (List.cons.inj heq).1) hsign
          · rfl
        have hread := receiver?_labelled (List.cons_ne_nil c target) htarget label
        rw [List.cons_append] at hread
        simp only [Bool.or_eq_true, decide_eq_true_eq, hsign, if_false, hread, hkeep]

theorem marked?_written {target text : List Char} (hne : target ≠ [])
    (htarget : ∀ c ∈ target, isWord c = true) (htext : IsTrimmed text) :
    marked? (target ++ (": ".toList ++ text)) = some (target, text) := by
  have hplain : unmarked target = target := by
    obtain ⟨c, t, rfl⟩ := List.exists_cons_of_ne_nil hne
    exact unmarked_of_isWord (htarget c (by simp)) t
  have htrim : trim (' ' :: text) = text := by
    have h := trim_append_append (b := [' ']) (e := []) (by decide) (by simp) htext
    rwa [List.append_nil] at h
  have hread := marked?_labelled (hplain.symm ▸ hne)
    (fun c hc => isNameChar_of_isWord (htarget c hc)) (' ' :: text)
  rwa [htrim, hplain] at hread

theorem arrow?_of_ne {c : Char} (hc : c ≠ '-') (s : List Char) : arrow? (c :: s) = none := by
  have hheads : ∀ arrow ∈ arrows, arrow.toList.head? = some '-' := by decide
  rw [arrow?, List.findSome?_eq_none_iff]
  intro arrow harrow
  have hafter : after? arrow (c :: s) = none := by
    rw [after?_eq_none_iff]
    rintro ⟨t, ht⟩
    obtain ⟨r, hr⟩ := List.head?_eq_some_iff.1 (hheads arrow harrow)
    rw [hr] at ht
    exact hc (List.cons.inj ht).1.symm
  rw [hafter]
  rfl

/-- The name on the left is read up to the arrow if no arrow begins inside it. -/
theorem arrowAfterName?_append {source rest : List Char} {found : Bool × List Char × List Char}
    (hne : source ≠ []) (hsource : ∀ c ∈ source, isNameChar c = true)
    (hinside : ∀ t, t <:+ source → t ≠ [] → arrow? (t ++ rest) = none)
    (hfound : arrow? (trimStart rest) = some found) :
    arrowAfterName? (source ++ rest) = some (source, found) := by
  induction source with
  | nil => exact absurd rfl hne
  | cons c source ih =>
      have hname : isNameChar c = true := hsource c (by simp)
      rw [List.cons_append, arrowAfterName?, hname]
      cases source with
      | nil =>
          rw [List.nil_append]
          simp only [hfound, Bool.not_true, Bool.false_eq_true, if_false]
      | cons d source =>
          have hd : isBlank d = false := isBlank_of_isNameChar (hsource d (by simp))
          have hnone : arrow? (trimStart (d :: source ++ rest)) = none := by
            rw [List.cons_append, trimStart_cons_of_not_blank hd, ← List.cons_append]
            exact hinside (d :: source) (List.suffix_cons c _) (by simp)
          have htail := ih (by simp) (fun e he => hsource e (List.mem_cons_of_mem c he))
            fun t ht => hinside t (ht.trans (List.suffix_cons c _))
          -- No arrow begins at the next character, so the name goes on.
          simp only [hnone, htail, Bool.not_true, Bool.false_eq_true, if_false, Option.map_some]

/-- No arrow begins in a word. -/
theorem arrowAfterName?_word {source rest : List Char} {found : Bool × List Char × List Char}
    (hne : source ≠ []) (hsource : ∀ c ∈ source, isWord c = true)
    (hfound : arrow? (trimStart rest) = some found) :
    arrowAfterName? (source ++ rest) = some (source, found) := by
  refine arrowAfterName?_append hne (fun c hc => isNameChar_of_isWord (hsource c hc))
    (fun t ht htne => ?_) hfound
  obtain ⟨c, t, rfl⟩ := List.exists_cons_of_ne_nil htne
  have hc : isWord c = true := hsource c (ht.subset (by simp))
  exact arrow?_of_ne (ne_of_isWord hc (by decide)) _

end DiagramBridge.Mermaid.Sequence
