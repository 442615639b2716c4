import DiagramBridge.Proofs.Mermaid.Flowchart.LineOrder
import DiagramBridge.Proofs.Mermaid.Flowchart.WrittenLine

/-!
# Chains of edges on one line

A line of ids with arrows between them is cut at these arrows, whatever stands in their labels. A
label between bars is taken together with its bars. A label between two dashes and a token is read up
to the first token with white space in front of it, and there is none in the label, which has no
greater-than sign. Between the arrows stand ids and spaces, and no arrow can begin there. So each
arrow is an edge between its neighbours.
-/

namespace DiagramBridge.Mermaid.Flowchart

open Text

/-! ## Arrows as they are written -/

/-- An arrow between two ids: a token, a token with a label between bars, or some words between two
dashes and a token. -/
inductive HopText where
  | bare (lineStyle : LineStyle) (arrowEnd : Bool)
  | barred (lineStyle : LineStyle) (arrowEnd : Bool) (label : List Char)
  | inline (words : List (List Char))

namespace HopText

def chars : HopText → List Char
  | .bare lineStyle arrowEnd => (arrowToken lineStyle arrowEnd).toList
  | .barred lineStyle arrowEnd label =>
    (arrowToken lineStyle arrowEnd).toList ++ '|' :: (label ++ ['|'])
  | .inline words => "-- ".toList ++ (List.intercalate [' '] words ++ " -->".toList)

/-- What an arrow means. -/
def hop : HopText → Hop
  | .bare lineStyle arrowEnd => { lineStyle, arrowEnd, label := [] }
  | .barred lineStyle arrowEnd label => { lineStyle, arrowEnd, label := unquote label }
  | .inline words =>
    { lineStyle := .plain, arrowEnd := true, label := unquote (List.intercalate [' '] words) }

/-- The label does not end early, and it stays on the line. -/
def IsProper : HopText → Prop
  | .bare _ _ => True
  | .barred _ _ label => '|' ∉ label ∧ '\n' ∉ label
  | .inline words => words ≠ [] ∧ (∀ w ∈ words, IsWordRun w ∧ '>' ∉ w) ∧
    ∀ w ∈ words.head?, ∀ c ∈ w.head?, c ∉ ['|', '-']

instance : (h : HopText) → Decidable h.IsProper
  | .bare _ _ => inferInstanceAs (Decidable True)
  | .barred _ _ label => inferInstanceAs (Decidable ('|' ∉ label ∧ '\n' ∉ label))
  | .inline words => inferInstanceAs (Decidable (words ≠ [] ∧
      (∀ w ∈ words, (w ≠ [] ∧ ∀ c ∈ w, isBlank c = false) ∧ '>' ∉ w) ∧
      ∀ w ∈ words.head?, ∀ c ∈ w.head?, c ∉ ['|', '-']))

end HopText

/-- Words of letters, digits and underscores can always stand in an arrow. -/
theorem isProper_inline_of_word {words : List (List Char)} (hne : words ≠ [])
    (h : ∀ w ∈ words, w ≠ [] ∧ ∀ c ∈ w, isWord c = true) : (HopText.inline words).IsProper := by
  refine ⟨hne, fun w hw => ⟨isWordRun_of_isWord (h w hw).1 (h w hw).2, fun hmem => ?_⟩, ?_⟩
  · exact ne_of_isWord ((h w hw).2 _ hmem) (by decide) rfl
  · intro w hw c hc
    exact not_mem_of_isWord ((h w (List.mem_of_mem_head? hw)).2 c (List.mem_of_mem_head? hc))
      (by decide)

/-! ## Arrows as they are read -/

theorem trimStart_ne_nil {s : List Char} (hne : s ≠ []) (h : Stops isBlank s.reverse) :
    trimStart s ≠ [] := by
  have hlast : isBlank (s.getLast hne) = false :=
    h _ (by rw [List.head?_reverse, List.getLast?_eq_some_getLast hne]; rfl)
  exact List.ne_nil_of_mem (mem_trimStart hlast (List.getLast_mem hne))

/-- A text without a greater-than sign and with no white space at its end is read up to the token
behind it. -/
theorem untilArrow?_append {s : List Char} (hs : '>' ∉ s) (hend : Stops isBlank s.reverse)
    (rest : List Char) : untilArrow? (s ++ ' ' :: ("-->".toList ++ rest)) = some (s, rest) := by
  have htoken : trimStart ("-->".toList ++ rest) = "-->".toList ++ rest :=
    trimStart_cons_of_not_blank (by decide)
  induction s with
  | nil =>
      rw [List.nil_append, untilArrow?, if_pos (by decide), htoken, after?_append]
  | cons c s ih =>
      have hends : Stops isBlank s.reverse :=
        hend.of_isPrefix (by rw [List.reverse_cons]; exact List.prefix_append _ _)
      have htail := ih (fun hmem => hs (List.mem_cons_of_mem c hmem)) hends
      rw [List.cons_append, untilArrow?, htail]
      split
      · next hblank =>
        have hne : s ≠ [] := by
          rintro rfl
          exact ne_of_kind hblank (stops_cons_iff.1 hend) rfl
        -- White space inside the text has more of the text behind it, which has no token in front.
        have hafter : after? "-->" (trimStart (s ++ ' ' :: ("-->".toList ++ rest))) = none := by
          rw [after?_eq_none_iff, trimStart, List.dropWhile_append,
            if_neg (by simpa [trimStart] using trimStart_ne_nil hne hends)]
          intro hpre
          have hin := isPrefix_of_append (p := fun c => !isBlank c) (by decide) (by simp; decide) hpre
          have hmem := List.dropWhile_subset isBlank (hin.subset (show '>' ∈ "-->".toList by decide))
          exact hs (List.mem_cons_of_mem c hmem)
        rw [hafter]
        rfl
      · rw [if_neg fun heq => hs (by simp [heq])]
        rfl

theorem tokenHop?_dashes (rest : List Char) : tokenHop? ("-- ".toList ++ rest) = none := by
  have hshort : ∀ token ∈ arrowTokens, token.toList.length = 3 ∧ ¬ token.toList <+: "-- ".toList := by
    decide
  refine tokenHop?_eq_none fun a _ hpre => ?_
  obtain ⟨token, hmem, htoken⟩ := exists_arrowToken_isPrefix a.1 a.2
  obtain ⟨hlength, hnot⟩ := hshort token hmem
  exact hnot (List.prefix_of_prefix_length_le (htoken.trans hpre) (List.prefix_append _ _)
    (by rw [hlength]; decide))

/-- A label inside an arrow is read up to the token that ends the arrow. -/
theorem hopAt?_of_inline {s : List Char} (hne : s ≠ []) (htrimmed : IsTrimmed s) (hgt : '>' ∉ s)
    (hhead : ∀ c ∈ s.head?, c ∉ ['|', '-']) (rest : List Char) :
    hopAt? ("-- ".toList ++ (s ++ " -->".toList) ++ rest) = some
      ({ lineStyle := .plain, arrowEnd := true, label := unquote s }, rest) := by
  obtain ⟨c, s, rfl⟩ := List.exists_cons_of_ne_nil hne
  have hblank : isBlank c = false := stops_cons_iff.1 htrimmed.1
  have hmarks : c ≠ '|' ∧ c ≠ '-' := by simpa using hhead c rfl
  have hc : c ≠ '>' := fun heq => hgt (by simp [heq])
  have hend : Stops isBlank s.reverse :=
    htrimmed.2.of_isPrefix (by rw [List.reverse_cons]; exact List.prefix_append _ _)
  have huntil := untilArrow?_append (fun hmem => hgt (List.mem_cons_of_mem c hmem)) hend rest
  have hinline : inlineHop? ("-- ".toList ++ (c :: s ++ " -->".toList) ++ rest) = some
      ({ lineStyle := .plain, arrowEnd := true, label := unquote (c :: s) }, rest) := by
    have hsplit : "-- ".toList ++ (c :: s ++ " -->".toList) ++ rest =
        "--".toList ++ (' ' :: c :: (s ++ ' ' :: ("-->".toList ++ rest))) := by simp
    have hspace : isBlank ' ' = true := by decide
    rw [hsplit, inlineHop?, after?_append]
    simp only [Option.bind_eq_bind, Option.bind_some, hspace, Bool.not_true, Bool.false_eq_true,
      if_false, trimStart_cons_of_not_blank hblank, hmarks, hc, decide_false, Bool.or_false, huntil]
  -- The tokens are tried first, and none of them is two dashes and a space.
  rw [hopAt?, List.append_assoc, tokenHop?_dashes, Option.none_or, ← List.append_assoc, hinline]

/-! ## Lines of ids and arrows -/

/-- A word that is an id. -/
def IsWordId (w : List Char) : Prop :=
  w ≠ [] ∧ ∀ c ∈ w, isWord c = true

instance (w : List Char) : Decidable (IsWordId w) :=
  inferInstanceAs (Decidable (w ≠ [] ∧ ∀ c ∈ w, isWord c = true))

/-- An id that gives the line that it begins no other meaning. -/
structure BeginsChain (w : List Char) : Prop where
  word : IsWordId w
  opening : ¬ "subgraph".toList <+: w
  looks : ∀ v ∈ ["style", "classDef", "class", "linkStyle", "click"], w ≠ v.toList

/-- The ids and the arrows between them, joined by single spaces. -/
def chainLine (first : List Char) (hops : List (HopText × List Char)) : List Char :=
  List.intercalate [' '] (first :: hops.flatMap fun h => [h.1.chars, h.2])

/-- The edge from an id over an arrow to the id behind it. -/
def HopText.course (source : List Char) (h : HopText × List Char) : Course where
  source := String.ofList source
  target := String.ofList h.2
  label := String.ofList h.1.hop.label
  lineStyle := h.1.hop.lineStyle
  arrowEnd := h.1.hop.arrowEnd

/-- A part of a chain that is an id, behind the hop of an arrow. -/
def IsPartOf (part : Hop × List Char) (h : HopText × List Char) : Prop :=
  part.1 = h.1.hop ∧ NodeText.read? part.2 = some ⟨h.2, none⟩

/-- A chain whose parts are some ids and whose hops are those of the arrows between them. -/
structure IsCutInto (c : Chain) (first : List Char) (hops : List (HopText × List Char)) : Prop where
  first : NodeText.read? c.first = some ⟨first, none⟩
  hops : List.Forall₂ IsPartOf c.hops hops

theorem chainLine_cons (first : List Char) (h : HopText × List Char)
    (hops : List (HopText × List Char)) :
    chainLine first (h :: hops) = first ++ ' ' :: (h.1.chars ++ ' ' :: chainLine h.2 hops) := by
  simp [chainLine, List.intercalate_cons_cons]

theorem exists_chainLine_eq (first : List Char) (hops : List (HopText × List Char)) :
    ∃ rest, chainLine first hops = first ++ rest :=
  exists_intercalate_cons_eq [' '] first _

/-- A proper arrow is read as it is meant, whatever follows the id behind it. -/
theorem hopAt?_chars {h : HopText} (hproper : h.IsProper) {w : List Char} (hw : IsWordId w)
    (rest : List Char) :
    hopAt? (h.chars ++ ' ' :: (w ++ rest)) = some (h.hop, ' ' :: (w ++ rest)) := by
  cases h with
  | bare lineStyle arrowEnd =>
      obtain ⟨hblank, hbar⟩ := stops_of_word hw.2
      exact hopAt?_of_unlabelled lineStyle arrowEnd (hblank.append hw.1) (hbar.append hw.1)
  | barred lineStyle arrowEnd label =>
      have hread := hopAt?_of_barred lineStyle arrowEnd hproper.1 (' ' :: (w ++ rest))
      rwa [List.append_cons label, ← List.cons_append, ← List.append_assoc] at hread
  | inline words =>
      obtain ⟨hne, hwords, hhead⟩ := hproper
      obtain ⟨v, vs, rfl⟩ := List.exists_cons_of_ne_nil hne
      have hv : v ≠ [] := (hwords v (by simp)).1.1
      have htrimmed := isTrimmed_intercalate_space fun w hw => (hwords w hw).1
      have hgt : '>' ∉ List.intercalate [' '] (v :: vs) :=
        not_mem_intercalate (by decide) fun w hw => (hwords w hw).2
      obtain ⟨r, hr⟩ := exists_intercalate_cons_eq [' '] v vs
      refine hopAt?_of_inline (by simp [hr, hv]) htrimmed hgt ?_ _
      rw [hr, List.head?_append_of_ne_nil _ hv]
      exact hhead v rfl

theorem exists_mark_mem_chars (h : HopText) : ∃ c ∈ h.chars, IsMark c := by
  cases h with
  | bare lineStyle arrowEnd =>
      cases lineStyle <;> cases arrowEnd <;> exact ⟨_, List.mem_cons_self, by decide⟩
  | barred lineStyle arrowEnd label => exact ⟨'|', by simp [HopText.chars], by decide⟩
  | inline words => exact ⟨'-', by simp [HopText.chars], by decide⟩

theorem lineFeed_not_mem_chars {h : HopText} (hproper : h.IsProper) : '\n' ∉ h.chars := by
  have htoken (lineStyle : LineStyle) (arrowEnd : Bool) :
      '\n' ∉ (arrowToken lineStyle arrowEnd).toList := by
    cases lineStyle <;> cases arrowEnd <;> decide
  cases h with
  | bare lineStyle arrowEnd => exact htoken lineStyle arrowEnd
  | barred lineStyle arrowEnd label =>
      simpa [HopText.chars, htoken lineStyle arrowEnd] using hproper.2
  | inline words =>
      have hlabel : '\n' ∉ List.intercalate [' '] words :=
        not_mem_intercalate (by decide) fun w hw hmem =>
          absurd ((hproper.2.1 w hw).1.2 _ hmem) (by decide)
      simpa [HopText.chars] using hlabel

theorem hopCourses_of_forall₂ {parts : List (Hop × List Char)} {hops : List (HopText × List Char)}
    (h : List.Forall₂ IsPartOf parts hops) (source : List Char) :
    hopCourses (some (String.ofList source)) parts =
      List.zipWith HopText.course (source :: hops.map Prod.snd) hops := by
  induction h generalizing source with
  | nil => rfl
  | @cons part h parts hops hpart _ ih =>
      have hid : partId? part.2 = some (String.ofList h.2) := by
        rw [partId?, hpart.2, Option.map_some]
      rw [hopCourses, hid, ih h.2, hpart.1]
      rfl

theorem filterMap_of_forall₂ {parts : List (Hop × List Char)} {hops : List (HopText × List Char)}
    (h : List.Forall₂ IsPartOf parts hops) :
    (parts.map Prod.snd).filterMap NodeText.read? =
      (hops.map Prod.snd).map fun w => (⟨w, none⟩ : NodeText) := by
  induction h with
  | nil => rfl
  | cons hpart _ ih =>
      rw [List.map_cons, filterMap_read?_cons, ih, hpart.2]
      rfl

namespace IsCutInto

variable {c : Chain} {first : List Char} {hops : List (HopText × List Char)}

theorem nodeTexts_eq (h : IsCutInto c first hops) :
    c.nodeTexts = (first :: hops.map Prod.snd).map fun w => (⟨w, none⟩ : NodeText) := by
  rw [Chain.nodeTexts, filterMap_read?_cons, filterMap_of_forall₂ h.hops, h.first]
  rfl

theorem courses_eq (h : IsCutInto c first hops) : hopCourses (partId? c.first) c.hops =
    List.zipWith HopText.course (first :: hops.map Prod.snd) hops := by
  rw [partId?, h.first]
  exact hopCourses_of_forall₂ h.hops first

end IsCutInto

section

variable {first : List Char} {hops : List (HopText × List Char)}
  (hhops : ∀ h ∈ hops, h.1.IsProper ∧ IsWordId h.2)
include hhops

/-- The line is cut at its arrows and nowhere else. -/
theorem isCutInto_ofLine {b : List Char} (hb : ∀ c ∈ b, c = ' ') (hfirst : IsWordId first) :
    IsCutInto (Chain.ofLine (b ++ chainLine first hops)) first hops := by
  have hspace : ∀ c, c = ' ' → isBlank c = true ∧ c ∉ ['-', '='] := by
    rintro c rfl
    decide
  induction hops generalizing b first with
  | nil =>
      have hfree := IsArrowFree.append_append (b := []) (fun c hc => (hspace c (hb c hc)).2)
        (isArrowFree_of_word hfirst.2) (by simp)
      have hread := read?_word (e := []) (fun c hc => (hspace c (hb c hc)).1) (by simp) hfirst.1
        hfirst.2
      rw [List.append_nil] at hfree hread
      rw [chainLine, List.flatMap_nil, List.intercalate_singleton, ofLine_of_arrowFree hfree]
      exact ⟨hread, .nil⟩
  | cons h hops ih =>
      obtain ⟨⟨hproper, hw⟩, hrest⟩ := List.forall_mem_cons.1 hhops
      obtain ⟨c, hc, -⟩ := exists_mark_mem_chars h.1
      obtain ⟨r, hr⟩ := exists_chainLine_eq h.2 hops
      -- The line goes on behind the arrow with a space, which the next part begins with.
      have htail := ih hrest (b := [' ']) (by simp) hw
      have hhop : hopAt? (h.1.chars ++ ' ' :: chainLine h.2 hops) =
          some (h.1.hop, ' ' :: chainLine h.2 hops) := by
        rw [hr]
        exact hopAt?_chars hproper hw r
      have hfront : ∀ c ∈ b ++ first ++ [' '], c ∉ ['-', '='] := by
        simp only [List.forall_mem_append]
        exact ⟨⟨fun c hc => (hspace c (hb c hc)).2,
          fun c hc => not_mem_of_isWord (hfirst.2 c hc) (by decide)⟩, by decide⟩
      have hline : b ++ chainLine first (h :: hops) =
          b ++ first ++ [' '] ++ (h.1.chars ++ ' ' :: chainLine h.2 hops) := by
        simp [chainLine_cons]
      rw [hline, ofLine_append hfront (List.ne_nil_of_mem hc) hhop]
      exact ⟨read?_word (fun c hc => (hspace c (hb c hc)).1) (by decide) hfirst.1 hfirst.2,
        .cons ⟨rfl, htail.first⟩ htail.hops⟩

theorem stops_reverse_chainLine (hfirst : IsWordId first) :
    Stops isLineEnd (chainLine first hops).reverse := by
  induction hops generalizing first with
  | nil =>
      rw [chainLine, List.flatMap_nil, List.intercalate_singleton]
      exact stops_reverse_of_word hfirst.2
  | cons h hops ih =>
      obtain ⟨⟨-, hw⟩, hrest⟩ := List.forall_mem_cons.1 hhops
      obtain ⟨r, hr⟩ := exists_chainLine_eq h.2 hops
      have hline : chainLine first (h :: hops) =
          (first ++ ' ' :: (h.1.chars ++ [' '])) ++ chainLine h.2 hops := by
        simp [chainLine_cons]
      rw [hline]
      exact stops_reverse_append (ih hrest hw) (by simp [hr, hw.1]) _

theorem lineFeed_not_mem_chainLine (hfirst : IsWordId first) : '\n' ∉ chainLine first hops := by
  refine not_mem_intercalate (by decide) (List.forall_mem_cons.2 ⟨?_, fun part hpart => ?_⟩)
  · exact lineFeed_not_mem_of_word hfirst.2
  · obtain ⟨h, hh, hpart⟩ := List.mem_flatMap.1 hpart
    have hcases : part = h.1.chars ∨ part = h.2 := by simpa using hpart
    rcases hcases with rfl | rfl
    · exact lineFeed_not_mem_chars (hhops h hh).1
    · exact lineFeed_not_mem_of_word (hhops h hh).2.2

theorem isStatement_chainLine (hfirst : IsWordId first) : IsStatement (chainLine first hops) := by
  obtain ⟨r, hr⟩ := exists_chainLine_eq first hops
  have hending := stops_reverse_chainLine hhops hfirst
  have hline := lineFeed_not_mem_chainLine hhops hfirst
  rw [hr] at hending hline ⊢
  exact isStatement_of_word hfirst.1 hfirst.2 hending fun hmem =>
    hline (List.mem_append_right _ hmem)

end

/-- The line has a meaning of its own only if its first id gives it one. -/
theorem isChainLine_chainLine {first : List Char} {hops : List (HopText × List Char)}
    (hne : hops ≠ []) (hfirst : BeginsChain first) : IsChainLine (chainLine first hops) := by
  obtain ⟨h, hops, rfl⟩ := List.exists_cons_of_ne_nil hne
  obtain ⟨c, hc, hmark⟩ := exists_mark_mem_chars h.1
  have hlooks : ∀ v ∈ skippedWords, ∃ u ∈ ["style", "classDef", "class", "linkStyle", "click"],
      v.toList = u.toList ++ [' '] := by
    decide +kernel
  rw [chainLine_cons, isChainLine_word_iff hfirst.word.2 (stops_cons_iff.2 (by decide))
    (List.mem_cons_of_mem _ (List.mem_append_left _ hc)) hmark]
  refine ⟨fun v hv heq _ _ => ?_, hfirst.opening⟩
  obtain ⟨u, hu, hvu⟩ := hlooks v hv
  exact hfirst.looks u hu (List.append_cancel_right (heq.symm.trans hvu))

/-! ## What is read of such a line -/

/-- Nodes without any declaration are rectangles that show their ids. -/
theorem declaredNodes_of_bare (ids : List String) :
    declaredNodes (ids.map fun id => ⟨id, none⟩) =
      ids.eraseDups.map fun id => { id, label := id, shape := .rectangle } := by
  have hbare : declarations (ids.map fun id => (⟨id, none⟩ : Occurrence)) = [] := by
    rw [declarations, List.filterMap_eq_nil_iff]
    intro o ho
    obtain ⟨id, -, rfl⟩ := List.mem_map.1 ho
    rfl
  have hids : (ids.map fun id => (⟨id, none⟩ : Occurrence)).map Occurrence.id = ids := by
    rw [List.map_map]
    exact List.map_id ids
  rw [declaredNodes, hids]
  refine List.map_congr_left fun id _ => ?_
  rw [declaredNode, hbare]
  rfl

section

variable {first : List Char} {hops : List (HopText × List Char)} (hne : hops ≠ [])
  (hfirst : BeginsChain first) (hhops : ∀ h ∈ hops, h.1.IsProper ∧ IsWordId h.2)

include hfirst hhops in
/-- A header with the line of a chain below it is the text of that line. -/
theorem flowchartBody?_chainLine :
    flowchartBody? (String.ofList ("flowchart TD\n".toList ++ chainLine first hops)) =
      some [chainLine first hops] := by
  have hstatement : ∀ s ∈ [chainLine first hops], IsStatement s :=
    List.forall_mem_singleton.2 (isStatement_chainLine hhops hfirst.word)
  have hread := flowchartBody?_unlines (List.cons_ne_nil _ _) hstatement
  rwa [unlines, List.intercalate_singleton] at hread

include hne hfirst hhops

theorem nodeTexts_chainLine : nodeTexts [chainLine first hops] =
    (first :: hops.map Prod.snd).map fun w => (⟨w, none⟩ : NodeText) := by
  rw [nodeTexts, List.flatMap_singleton, isChainLine_chainLine hne hfirst]
  exact (isCutInto_ofLine hhops (b := []) (by simp) hfirst.word).nodeTexts_eq

theorem hasNames_chainLine : HasNames (nodeTexts [chainLine first hops]) := by
  rw [nodeTexts_chainLine hne hfirst hhops, HasNames, List.forall_mem_map, List.forall_mem_cons,
    List.forall_mem_map]
  exact ⟨hfirst.word.1, fun h hh => (hhops h hh).2.1⟩

theorem occurrences_chainLine : occurrences [chainLine first hops] =
    ((first :: hops.map Prod.snd).map String.ofList).map fun id => ⟨id, none⟩ := by
  rw [occurrences_of_hasNames (hasNames_chainLine hne hfirst hhops),
    nodeTexts_chainLine hne hfirst hhops, List.map_map, List.map_map]
  rfl

theorem courses_chainLine : (read [chainLine first hops]).edges.map courseOf =
    List.zipWith HopText.course (first :: hops.map Prod.snd) hops := by
  rw [courses_read (hasNames_chainLine hne hfirst hhops), courses, List.flatMap_singleton,
    isChainLine_chainLine hne hfirst]
  exact (isCutInto_ofLine hhops (b := []) (by simp) hfirst.word).courses_eq

/-- **Chained edges.** A line of ids with arrows between them is as many edges as it has arrows, each
from the id before its arrow to the id behind it and with the meaning of its arrow, and it has no
nodes but its ids. -/
theorem read_chainLine :
    ∃ chart : Graph,
      Mermaid.read (String.ofList ("flowchart TD\n".toList ++ chainLine first hops)) =
        .ok ⟨.flowchart, chart⟩ ∧
      chart.edges.length = hops.length ∧
      chart.edges.map courseOf = List.zipWith HopText.course (first :: hops.map Prod.snd) hops ∧
      chart.nodes = ((first :: hops.map Prod.snd).map String.ofList).eraseDups.map
        fun id => { id, label := id, shape := .rectangle } := by
  have hoccurrences := occurrences_chainLine hne hfirst hhops
  have hcourses := courses_chainLine hne hfirst hhops
  have hlength : (read [chainLine first hops]).edges.length = hops.length := by
    rw [← List.length_map courseOf, hcourses, List.length_zipWith, List.length_cons,
      List.length_map, Nat.min_eq_right (Nat.le_succ _)]
  refine ⟨read [chainLine first hops], ?_, hlength, hcourses, ?_⟩
  · rw [read_of_flowchartBody? (flowchartBody?_chainLine hfirst hhops),
      if_neg (by rw [hoccurrences]; simp)]
  · rw [nodes_read, hoccurrences, declaredNodes_of_bare]

end

/-- A label may have an arrow in it, and a chain may come back to its first id. -/
theorem read_chainLine_cycle :
    ∃ chart : Graph,
      Mermaid.read "flowchart TD\nA -- over to --> B -.-| \"x --> y\" | C ==> A" =
        .ok ⟨.flowchart, chart⟩ ∧
      chart.edges.length = 3 ∧
      chart.edges.map courseOf =
        [⟨"A", "B", "over to", .plain, true⟩, ⟨"B", "C", "x --> y", .dashed, false⟩,
          ⟨"C", "A", "", .thick, true⟩] ∧
      chart.nodes = ["A", "B", "C"].map fun id => { id, label := id, shape := .rectangle } := by
  obtain ⟨chart, hread, hlength, hcourses, hnodes⟩ := @read_chainLine "A".toList
    [(.inline ["over".toList, "to".toList], "B".toList),
      (.barred .dashed false " \"x --> y\" ".toList, "C".toList), (.bare .thick true, "A".toList)]
    (by simp) ⟨by decide, by decide, by decide +kernel⟩ (by decide +kernel)
  exact ⟨chart, (congrArg Mermaid.read (by decide +kernel)).trans hread, hlength,
    hcourses.trans (by decide +kernel), hnodes.trans (by decide +kernel)⟩

end DiagramBridge.Mermaid.Flowchart
