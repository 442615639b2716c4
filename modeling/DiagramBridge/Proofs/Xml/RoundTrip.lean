import DiagramBridge.Proofs.Xml.Opening
import DiagramBridge.Proofs.Xml.Scan
import Mathlib.Data.List.Nodup

/-!
# Reading a written document

A plain element that is written with some spacing is read back as the same element, but for the
white space: an element with children has the gap in front of its first child as its character data.
Nothing else changes, so the tags, the attributes and the children are those that were written. On
one line there are no gaps, and an element is read back as it was.
-/

namespace DiagramBridge.Xml

open Text

namespace Element

mutual

/-- An element with the white space that spacing puts in front of its first child. -/
def withSpacing (w : Spacing) (level : Nat) : Element → Element
  | mk tag attributes text children =>
    match children with
    | [] => mk tag attributes text []
    | _ :: _ =>
      mk tag attributes (String.ofList (w.gap (level + 1)))
        (forestWithSpacing w (level + 1) children)

/-- Several elements with their white space. -/
def forestWithSpacing (w : Spacing) (level : Nat) : List Element → List Element
  | [] => []
  | e :: es => e.withSpacing w level :: forestWithSpacing w level es

end

mutual

/-- An element with the line breaks that writing puts between its children. -/
def withLineBreaks (level : Nat) : Element → Element
  | mk tag attributes text children =>
    match children with
    | [] => mk tag attributes text []
    | _ :: _ =>
      mk tag attributes (String.ofList (lineBreak (level + 1)))
        (forestWithLineBreaks (level + 1) children)

/-- Several elements with their line breaks. -/
def forestWithLineBreaks (level : Nat) : List Element → List Element
  | [] => []
  | e :: es => e.withLineBreaks level :: forestWithLineBreaks level es

end

mutual

theorem withSpacing_lines (level : Nat) :
    ∀ e : Element, e.withSpacing .lines level = e.withLineBreaks level
  | mk tag attributes text [] => by rw [withSpacing, withLineBreaks]
  | mk tag attributes text (e :: es) => by
      rw [withSpacing, withLineBreaks, forestWithSpacing_lines (level + 1) (e :: es)]
      rfl

theorem forestWithSpacing_lines (level : Nat) :
    ∀ es : List Element, forestWithSpacing .lines level es = forestWithLineBreaks level es
  | [] => rfl
  | e :: es => by
      rw [forestWithSpacing, forestWithLineBreaks, withSpacing_lines level e,
        forestWithSpacing_lines level es]

end

mutual

theorem withSpacing_tight (level : Nat) :
    ∀ e : Element, e.All IsUnmixed → e.withSpacing .tight level = e
  | mk tag attributes text [], _ => by rw [withSpacing]
  | mk tag attributes text (e :: es), h => by
      obtain ⟨hself, hes⟩ := all_mk.1 h
      have htext : text = "" := hself.resolve_right (by simp [children])
      rw [withSpacing, forestWithSpacing_tight (level + 1) (e :: es) hes, htext]
      rfl

theorem forestWithSpacing_tight (level : Nat) :
    ∀ es : List Element, (∀ e ∈ es, e.All IsUnmixed) → forestWithSpacing .tight level es = es
  | [], _ => rfl
  | e :: es, h => by
      rw [forestWithSpacing, withSpacing_tight level e (h e (by simp)),
        forestWithSpacing_tight level es fun d hd => h d (by simp [hd])]

end

end Element

/-! ## Entities -/

mutual

theorem entity_not_mem_tokensAt (w : Spacing) (level : Nat) (name : List Char) :
    ∀ e : Element, Token.entity name ∉ e.tokensAt w level
  | .mk tag attributes text [] => by
      rw [Element.tokensAt]
      by_cases hempty : text = "" <;> simp [hempty]
  | .mk tag attributes text (e :: es) => by
      have hes := entity_not_mem_forestTokensAt w (level + 1) name (e :: es)
      rw [Element.tokensAt]
      simp [hes]

theorem entity_not_mem_forestTokensAt (w : Spacing) (level : Nat) (name : List Char) :
    ∀ es : List Element, Token.entity name ∉ Element.forestTokensAt w level es
  | [] => by simp [Element.forestTokensAt]
  | e :: es => by
      have he := entity_not_mem_tokensAt w level name e
      have hes := entity_not_mem_forestTokensAt w level name es
      rw [Element.forestTokensAt]
      simp [he, hes]

end

/-- Tokens among which there is no entity stay as they are. -/
theorem expandTokens?_of_no_entity (d : Declarations) (depth : Nat) {ts : List Token}
    (h : ∀ name, Token.entity name ∉ ts) : expandTokens? d (depth + 1) ts = some ts := by
  rw [expandTokens?]
  simp only [bind, Option.bind]
  rw [mapM_of_forall_eq_some (g := fun t => [t])]
  · exact congrArg some (List.flatMap_singleton' ts)
  · intro t ht
    cases t with
    | entity name => exact absurd ht (h name)
    | startTag name attributes isEmpty => rfl
    | endTag name => rfl
    | char c => rfl

/-! ## Frames -/

theorem distinct_of_nodup {α : Type} [BEq α] [LawfulBEq α] {l : List α} (h : l.Nodup) :
    distinct l = true := by
  induction l with
  | nil => rfl
  | cons a l ih =>
      obtain ⟨ha, hl⟩ := List.nodup_cons.1 h
      simp [distinct, ha, ih hl]

theorem boundName?_plainName {s : String} (h : s ≠ "xmlns") : boundName? (plainName s) = none := by
  have hbase : plainName s ≠ ⟨none, "xmlns".toList⟩ := by
    intro heq
    exact h (String.toList_inj.1 (congrArg QName.base heq))
  rw [boundName?, if_neg (by simp [plainName]), if_neg hbase]

theorem bindAll?_of_plain (scope : Scope) {attributes : List (String × String)}
    (h : ∀ a ∈ attributes, a.1 ≠ "xmlns") :
    scope.bindAll? (attributes.map fun a => (plainName a.1, a.2.toList)) = some scope := by
  induction attributes with
  | nil => rfl
  | cons a attributes ih =>
      rw [List.map_cons, Scope.bindAll?, boundName?_plainName (h a (by simp))]
      exact ih fun b hb => h b (by simp [hb])

/-- The frame that the start tag of a plain element opens where nothing is declared. -/
def plainFrame (tag : String) (attributes : List (String × String)) : Frame :=
  ⟨plainName tag, tag, attributes, .outermost, [], []⟩

theorem openFrame?_written (tag : String) {attributes : List (String × String)}
    (h : ArePlainAttributes attributes) :
    openFrame? {} .outermost (plainName tag) (attributes.map writtenAttribute) =
      some (plainFrame tag attributes) := by
  have hnames : ((attributes.map writtenAttribute).map (·.1)).Nodup := by
    rw [List.map_map]
    have hinj : Function.Injective plainName := fun s t hst =>
      String.toList_inj.1 (congrArg QName.base hst)
    have := h.nodup.map hinj
    rwa [List.map_map] at this
  have hdefaults : Declarations.defaults {} (plainName tag)
      ((attributes.map writtenAttribute).map (·.1)) = [] := rfl
  have htag : Scope.outermost.elementName? (plainName tag) = some tag := by
    simp [Scope.elementName?, plainName, expandedName, Scope.outermost]
  rw [openFrame?]
  simp only [distinct_of_nodup hnames, hdefaults, List.append_nil, Bool.not_true,
    Bool.false_eq_true, if_false, List.mapM_map]
  -- the values are read, then the attributes that declare nothing are given their names
  rw [mapM_of_forall_eq_some (g := fun a => (plainName a.1, a.2.toList))]
  · simp only [bind, Option.bind, bindAll?_of_plain _ h.undeclaring, htag]
    rw [List.filter_eq_self.2, List.mapM_map, mapM_of_forall_eq_some (g := id), List.map_id]
    · simp only [distinct_of_nodup h.nodup, if_true]
      rfl
    · intro a _
      simp [Scope.attributeName?, plainName, expandedName]
    · intro p hp
      obtain ⟨a, ha, rfl⟩ := List.mem_map.1 hp
      simp [boundName?_plainName (h.undeclaring a ha)]
  · intro a _
    have hv := attributeValue?_written {} 0 a.2.toList
    simp only [Function.comp_def, writtenAttribute, Declarations.value?, Declarations.maxDepth]
    rw [List.length_nil, hv]
    rfl

def Frame.addChars (f : Frame) (s : List Char) : Frame :=
  s.foldl Frame.addChar f

/-- Adds the elements that are read from several written ones, with the white space in front. -/
def Frame.addForest (w : Spacing) (level : Nat) (f : Frame) (es : List Element) : Frame :=
  es.foldl (fun f e => (f.addChars (w.gap level)).addChild (e.withSpacing w level)) f

theorem Frame.addChars_of_children {f : Frame} (h : f.children ≠ []) (s : List Char) :
    f.addChars s = f := by
  induction s with
  | nil => rfl
  | cons c s ih =>
      have hc : f.addChar c = f := by
        rw [Frame.addChar, if_neg (by simpa using h)]
      rw [Frame.addChars, List.foldl_cons, hc]
      exact ih

theorem Frame.addChars_of_no_children {f : Frame} (h : f.children = []) (s : List Char) :
    f.addChars s = { f with text := s.reverse ++ f.text } := by
  induction s generalizing f with
  | nil => rfl
  | cons c s ih =>
      have hc : f.addChar c = { f with text := c :: f.text } := by
        rw [Frame.addChar, if_pos (by simp [h])]
      rw [Frame.addChars, List.foldl_cons, hc]
      have := ih (f := { f with text := c :: f.text }) h
      rw [Frame.addChars] at this
      rw [this]
      simp

theorem Frame.addChars_of_forall {β : Type} {part : Frame → β}
    (h : ∀ f c, part (Frame.addChar f c) = part f) (f : Frame) (s : List Char) :
    part (f.addChars s) = part f := by
  induction s generalizing f with
  | nil => rfl
  | cons c s ih => exact (ih (f.addChar c)).trans (h f c)

@[simp] theorem Frame.name_addChars (f : Frame) (s : List Char) :
    (f.addChars s).name = f.name := by
  refine Frame.addChars_of_forall (fun f c => ?_) f s
  rw [Frame.addChar]
  split <;> rfl

@[simp] theorem Frame.scope_addChars (f : Frame) (s : List Char) :
    (f.addChars s).scope = f.scope := by
  refine Frame.addChars_of_forall (fun f c => ?_) f s
  rw [Frame.addChar]
  split <;> rfl

theorem Frame.addForest_of_children {f : Frame} (h : f.children ≠ []) (w : Spacing) (level : Nat)
    (es : List Element) :
    f.addForest w level es =
      { f with children := (Element.forestWithSpacing w level es).reverse ++ f.children } := by
  induction es generalizing f with
  | nil => rfl
  | cons e es ih =>
      rw [Frame.addForest, List.foldl_cons, Frame.addChars_of_children h]
      have := ih (f := f.addChild (e.withSpacing w level)) (by simp [Frame.addChild])
      rw [Frame.addForest] at this
      rw [this]
      simp [Frame.addChild, Element.forestWithSpacing]

theorem addForest_plainFrame (tag : String) (attributes : List (String × String)) (w : Spacing)
    (level : Nat) (e : Element) (es : List Element) :
    (plainFrame tag attributes).addForest w level (e :: es) =
      { plainFrame tag attributes with
        text := (w.gap level).reverse
        children := (Element.forestWithSpacing w level (e :: es)).reverse } := by
  rw [Frame.addForest, List.foldl_cons, Frame.addChars_of_no_children rfl]
  have h := Frame.addForest_of_children (f := { plainFrame tag attributes with
    text := (w.gap level).reverse, children := [e.withSpacing w level] })
    (by simp) w level es
  rw [Frame.addForest] at h
  simp only [Frame.addChild, plainFrame, List.append_nil] at h ⊢
  rw [h]
  simp [Element.forestWithSpacing]

/-! ## Building -/

theorem build?_chars (d : Declarations) (f : Frame) (fs : List Frame) (s : List Char)
    (ts : List Token) :
    build? d (f :: fs) (s.map .char ++ ts) = build? d (f.addChars s :: fs) ts := by
  induction s generalizing f with
  | nil => rfl
  | cons c s ih =>
      rw [List.map_cons, List.cons_append, build?, ih]
      rfl

/-- What a frame becomes when the tokens between the tags of an element have been read. -/
def filledFrame (w : Spacing) (level : Nat) : Element → Frame
  | .mk tag attributes text children =>
    match children with
    | [] => (plainFrame tag attributes).addChars text.toList
    | _ :: _ =>
      ((plainFrame tag attributes).addForest w (level + 1) children).addChars
        (w.gap level)

theorem toElement_filledFrame (w : Spacing) (level : Nat) (e : Element) :
    (filledFrame w level e).toElement = e.withSpacing w level := by
  obtain ⟨tag, attributes, text, children⟩ := e
  cases children with
  | nil =>
      rw [filledFrame, Element.withSpacing, Frame.addChars_of_no_children rfl]
      simp [Frame.toElement, plainFrame]
  | cons e es =>
      have hne : ((plainFrame tag attributes).addForest w (level + 1) (e :: es)).children ≠ [] := by
        rw [addForest_plainFrame]
        simp [Element.forestWithSpacing]
      rw [filledFrame, Element.withSpacing, Frame.addChars_of_children hne,
        addForest_plainFrame]
      simp [Frame.toElement, plainFrame]

theorem name_filledFrame (w : Spacing) (level : Nat) (tag : String)
    (attributes : List (String × String)) (text : String) (children : List Element) :
    (filledFrame w level (.mk tag attributes text children)).name = plainName tag := by
  cases children with
  | nil =>
      rw [filledFrame, Frame.name_addChars]
      rfl
  | cons e es =>
      rw [filledFrame, Frame.name_addChars, addForest_plainFrame]
      rfl

/-- A tag that ends an element turns the frame of the element into a child of the one around it. -/
theorem build?_endTag {name : QName} {g f : Frame} (hname : g.name = name) (fs : List Frame)
    (ts : List Token) :
    build? {} (g :: f :: fs) (.endTag name :: ts) =
      build? {} (f.addChild g.toElement :: fs) ts := by
  rw [build?, if_pos hname]
  rfl

mutual

/-- The tokens of an element add the element to the frame around it. -/
theorem build?_tokensAt (w : Spacing) (level : Nat) (f : Frame) (fs : List Frame) (ts : List Token)
    (hf : f.scope = .outermost) :
    ∀ e : Element, e.IsPlain →
      build? {} (f :: fs) (e.tokensAt w level ++ ts) =
        build? {} (f.addChild (e.withSpacing w level) :: fs) ts
  | .mk tag attributes text [], h => by
      have hframe := openFrame?_written tag h.2.1
      have hfilled := toElement_filledFrame w level (.mk tag attributes text [])
      rw [Element.tokensAt]
      by_cases hempty : text = ""
      · subst hempty
        rw [← hfilled, if_pos rfl, List.singleton_append, build?, scopeOf, hf, hframe]
        rfl
      · rw [if_neg hempty, List.cons_append, build?, scopeOf, hf, hframe]
        simp only [bind, Option.bind, Bool.false_eq_true, if_false]
        rw [List.append_assoc, build?_chars, List.singleton_append, ← hfilled]
        exact build?_endTag (name_filledFrame w level tag attributes text []) fs ts
  | .mk tag attributes text (e :: es), h => by
      have hframe := openFrame?_written tag h.2.1
      have hfilled := toElement_filledFrame w level (.mk tag attributes text (e :: es))
      have hname := name_filledFrame w level tag attributes text (e :: es)
      rw [Element.tokensAt, List.cons_append, build?, scopeOf, hf, hframe]
      simp only [bind, Option.bind, Bool.false_eq_true, if_false]
      rw [List.append_assoc,
        build?_forestTokensAt w (level + 1) (plainFrame tag attributes) (f :: fs) _ rfl (e :: es)
          h.2.2.2,
        List.append_assoc, build?_chars, List.singleton_append, ← hfilled]
      exact build?_endTag hname fs ts

/-- The tokens of several elements add them one after the other. -/
theorem build?_forestTokensAt (w : Spacing) (level : Nat) (f : Frame) (fs : List Frame)
    (ts : List Token) (hf : f.scope = .outermost) :
    ∀ es : List Element, Element.IsPlainForest es →
      build? {} (f :: fs) (Element.forestTokensAt w level es ++ ts) =
        build? {} (f.addForest w level es :: fs) ts
  | [], _ => rfl
  | e :: es, h => by
      have he := build?_tokensAt w level (f.addChars (w.gap level)) fs
        (Element.forestTokensAt w level es ++ ts) (by rw [Frame.scope_addChars, hf]) e h.1
      have hes := build?_forestTokensAt w level
        ((f.addChars (w.gap level)).addChild (e.withSpacing w level)) fs ts
        (by rw [Frame.addChild]; simp [hf]) es h.2
      rw [Element.forestTokensAt, List.append_assoc, build?_chars, List.append_assoc, he, hes]
      rfl

end

/-- The tokens of a whole document give its root. -/
theorem build?_root {e : Element} (h : e.IsPlain) (w : Spacing) (level : Nat) :
    build? {} [] (e.tokensAt w level) = some (e.withSpacing w level) := by
  obtain ⟨tag, attributes, text, children⟩ := e
  have hframe := openFrame?_written tag h.2.1
  have hfilled := toElement_filledFrame w level (.mk tag attributes text children)
  have hname := name_filledFrame w level tag attributes text children
  cases children with
  | nil =>
      rw [Element.tokensAt, ← hfilled]
      by_cases hempty : text = ""
      · subst hempty
        rw [if_pos rfl, build?, scopeOf, hframe]
        rfl
      · rw [if_neg hempty, build?, scopeOf, hframe]
        simp only [bind, Option.bind, Bool.false_eq_true, if_false]
        rw [filledFrame] at hname ⊢
        rw [build?_chars, build?, if_pos hname]
        rfl
  | cons e es =>
      rw [Element.tokensAt, ← hfilled, build?, scopeOf, hframe]
      simp only [bind, Option.bind, Bool.false_eq_true, if_false]
      rw [build?_forestTokensAt w (level + 1) (plainFrame tag attributes) [] _ rfl (e :: es)
        h.2.2.2, build?_chars]
      rw [filledFrame] at hname ⊢
      rw [build?, if_pos hname]
      rfl

/-! ## Documents -/

theorem isXmlChar_of_isNameChar {c : Char} (h : isNameChar c = true) :
    isXmlChar c = true ∧ c ≠ '\r' := by
  have hranges : ∀ n ∈ [0xFFFE, 0xFFFF],
      (inRanges nameStartRanges n || inRanges nameRestRanges n) = false := by decide +kernel
  constructor
  · rw [isNameChar] at h
    by_cases hascii : c.toNat < 0x80
    · rw [if_pos hascii] at h
      simp only [isAsciiLetter, isAsciiDigit, Bool.or_eq_true, Bool.and_eq_true,
        decide_eq_true_eq, beq_iff_eq, Char.le_def, UInt32.le_iff_toNat_le] at h
      have h32 : 32 ≤ c.toNat := by
        rcases h with (((h | h) | rfl) | rfl) | rfl
        · rcases h with h | h
          · exact Nat.le_trans (by decide) h.1
          · exact Nat.le_trans (by decide) h.1
        · exact Nat.le_trans (by decide) h.1
        all_goals decide
      simp only [isXmlChar, Bool.and_eq_true, Bool.or_eq_true, decide_eq_true_eq, bne_iff_ne]
      omega
    · rw [if_neg hascii] at h
      have hne : c.toNat ≠ 0xFFFE ∧ c.toNat ≠ 0xFFFF := by
        refine ⟨?_, ?_⟩ <;> intro heq <;> rw [heq, hranges _ (by simp)] at h <;> simp at h
      simp only [isXmlChar, Bool.and_eq_true, Bool.or_eq_true, decide_eq_true_eq, bne_iff_ne]
      omega
  · rintro rfl
    exact absurd h (by decide)

/-- A character that a document is left with as it is: it may stand there, and it is no carriage
return. -/
def isDocumentChar (c : Char) : Bool :=
  isXmlChar c && c != '\r'

theorem isDocumentChar_of_mem_attributeChar {c d : Char} (hc : isXmlChar c = true)
    (hd : d ∈ attributeChar c) : isDocumentChar d = true := by
  have hword : ∀ w ∈ ["&amp;", "&lt;", "&gt;", "&quot;", "&#13;", "&#10;", "&#09;"],
      ∀ d ∈ w.toList, isDocumentChar d = true := by decide
  unfold attributeChar at hd
  split_ifs at hd with h1 h2 h3 h4 h5 h6 h7
  · exact hword "&amp;" (by simp) d hd
  · exact hword "&lt;" (by simp) d hd
  · exact hword "&gt;" (by simp) d hd
  · exact hword "&quot;" (by simp) d hd
  · exact hword "&#13;" (by simp) d hd
  · exact hword "&#10;" (by simp) d hd
  · exact hword "&#09;" (by simp) d hd
  · rw [List.mem_singleton] at hd
    subst hd
    simp [isDocumentChar, hc, h5]

theorem isDocumentChar_of_mem_textChar {c d : Char} (hc : isPlainTextChar c = true)
    (hd : d ∈ textChar c) : isDocumentChar d = true := by
  have hword : ∀ w ∈ ["&amp;", "&lt;", "&gt;"], ∀ d ∈ w.toList, isDocumentChar d = true := by decide
  unfold textChar at hd
  split_ifs at hd with h1 h2 h3
  · exact hword "&amp;" (by simp) d hd
  · exact hword "&lt;" (by simp) d hd
  · exact hword "&gt;" (by simp) d hd
  · rw [List.mem_singleton] at hd
    subst hd
    simp only [isPlainTextChar, Bool.and_eq_true] at hc
    simp [isDocumentChar, hc.1.1, hc.1.2]

theorem all_isDocumentChar_name {s : List Char} (hs : IsSimpleName s) :
    s.all isDocumentChar = true := by
  rw [List.all_eq_true]
  intro c hc
  obtain ⟨h₁, h₂⟩ := isXmlChar_of_isNameChar (hs.2 c hc)
  simp [isDocumentChar, h₁, h₂]

theorem all_isDocumentChar_tagOpening {tag : String} {attributes : List (String × String)}
    (htag : IsSimpleName tag.toList) (h : ArePlainAttributes attributes) :
    (tagOpening tag attributes).all isDocumentChar = true := by
  have hattr : (attributes.flatMap attributeText).all isDocumentChar = true := by
    rw [List.all_eq_true]
    intro c hc
    obtain ⟨a, ha, hc⟩ := List.mem_flatMap.1 hc
    have hname := all_isDocumentChar_name (h.simple a ha)
    have hvalue : (a.2.toList.flatMap attributeChar).all isDocumentChar = true := by
      rw [List.all_eq_true]
      intro c hc
      obtain ⟨d, hd, hc⟩ := List.mem_flatMap.1 hc
      exact isDocumentChar_of_mem_attributeChar (h.legal a ha d hd) hc
    have hall : (attributeText a).all isDocumentChar = true := by
      simp only [attributeText, List.all_append, List.all_cons, hname, hvalue]
      decide
    exact List.all_eq_true.1 hall c hc
  simp only [tagOpening, List.all_append, List.all_cons, all_isDocumentChar_name htag, hattr]
  decide

theorem all_isDocumentChar_endTagText {tag : String} (htag : IsSimpleName tag.toList) :
    (endTagText tag).all isDocumentChar = true := by
  simp only [endTagText, List.all_append, all_isDocumentChar_name htag]
  decide

theorem all_isDocumentChar_gap (w : Spacing) (level : Nat) :
    (w.gap level).all isDocumentChar = true := by
  rw [List.all_eq_true]
  intro c hc
  rcases w.isSpace level c hc with rfl | rfl <;> decide

mutual

/-- A written element holds only characters that reading leaves alone. -/
theorem all_isDocumentChar_spacedText (w : Spacing) (level : Nat) :
    ∀ e : Element, e.IsPlain → (e.spacedText w level).all isDocumentChar = true
  | .mk tag attributes text [], h => by
      have htag := all_isDocumentChar_tagOpening h.1 h.2.1
      have hend := all_isDocumentChar_endTagText h.1
      have htext : (text.toList.flatMap textChar).all isDocumentChar = true := by
        rw [List.all_eq_true]
        intro c hc
        obtain ⟨d, hd, hc⟩ := List.mem_flatMap.1 hc
        exact isDocumentChar_of_mem_textChar (h.2.2.1 d hd) hc
      rw [Element.spacedText, List.all_append, htag, Bool.true_and]
      split
      · decide
      · simp only [List.all_append, List.all_cons, htext, hend]
        decide
  | .mk tag attributes text (e :: es), h => by
      have htag := all_isDocumentChar_tagOpening h.1 h.2.1
      have hend := all_isDocumentChar_endTagText h.1
      have hes := all_isDocumentChar_spacedForest w (level + 1) (e :: es) h.2.2.2
      have hbreak := all_isDocumentChar_gap w level
      rw [Element.spacedText]
      simp only [List.all_append, List.all_cons, htag, hes, hbreak, hend]
      decide

theorem all_isDocumentChar_spacedForest (w : Spacing) (level : Nat) :
    ∀ es : List Element, Element.IsPlainForest es →
      (Element.spacedForest w level es).all isDocumentChar = true
  | [], _ => rfl
  | e :: es, h => by
      have he := all_isDocumentChar_spacedText w level e h.1
      have hes := all_isDocumentChar_spacedForest w level es h.2
      have hbreak := all_isDocumentChar_gap w level
      rw [Element.spacedForest]
      simp only [List.all_append, he, hes, hbreak]
      decide

end

/-- What stands before the root of a written element is nothing. -/
theorem declarations?_spacedText {e : Element} (h : e.IsPlain) (w : Spacing) (level : Nat) :
    ∃ c r, e.spacedText w level = '<' :: c :: r ∧ isNameStart c = true ∧
      declarations? (e.spacedText w level) = some ({}, e.spacedText w level) := by
  obtain ⟨tag, attributes, text, children⟩ := e
  obtain ⟨tail, htail⟩ : ∃ tail, Element.spacedText w level (.mk tag attributes text children) =
      '<' :: (tag.toList ++ tail) := by
    cases children with
    | nil =>
        rw [Element.spacedText, tagOpening]
        split <;> exact ⟨_, by simp [List.append_assoc]; rfl⟩
    | cons e es =>
        rw [Element.spacedText, tagOpening]
        exact ⟨_, by simp [List.append_assoc]; rfl⟩
  obtain ⟨c, r, hcons, hc⟩ := head_of_isSimpleName h.1 tail
  rw [hcons] at htail
  have hne : c ≠ '?' ∧ c ≠ '!' := by
    refine ⟨?_, ?_⟩ <;> rintro rfl <;> exact absurd hc (by decide)
  refine ⟨c, r, htail, hc, ?_⟩
  have hxml : after? "<?xml" ('<' :: c :: r) = none := by
    rw [after?_eq_none_iff]
    rintro ⟨t, ht⟩
    have : '?' = c := (List.cons.inj (List.cons.inj ht).2).1
    exact hne.1 this.symm
  have hskip : skipSpace ('<' :: c :: r) = '<' :: c :: r := rfl
  rw [htail, declarations?, hxml]
  simp only [List.length_cons]
  rw [prolog?.eq_2, hskip]
  split
  · next heq =>
    exact absurd (List.cons.inj (List.cons.inj heq).2).1 hne.1
  · next heq =>
    exact absurd (List.cons.inj (List.cons.inj heq).2).1 hne.2
  · rfl

/-- A plain element that is written as a document is read back with its white space. -/
theorem readChars?_spacedText {e : Element} (h : e.IsPlain) (w : Spacing) :
    readChars? (e.spacedText w 0) = some (e.withSpacing w 0) := by
  have hall := List.all_eq_true.1 (all_isDocumentChar_spacedText w 0 e h)
  have hlegal : (e.spacedText w 0).all isXmlChar = true := by
    rw [List.all_eq_true]
    intro c hc
    exact (Bool.and_eq_true_iff.1 (hall c hc)).1
  have hbreaks : normalizeBreaks (e.spacedText w 0) = e.spacedText w 0 := by
    rw [normalizeBreaks_eq_unifyLineBreaks]
    refine unifyLineBreaks_of_no_return fun hr => ?_
    exact absurd (hall _ hr) (by decide)
  obtain ⟨c, r, hcons, -, hdecl⟩ := declarations?_spacedText h w 0
  have hmark : ∀ s, e.spacedText w 0 ≠ '\uFEFF' :: s := by
    intro s hs
    rw [hcons] at hs
    exact absurd (List.cons.inj hs).1 (by decide)
  obtain ⟨k, hk, hscan⟩ := scans_spacedText w 0 0 [] e h
  rw [List.append_nil] at hk hscan
  have hscan := hscan ((e.spacedText w 0).length + 1 - k)
  rw [if_pos rfl, Nat.sub_add_cancel (by simp at hk; omega)] at hscan
  have hexpand : expandTokens? {} (0 + 1) (e.tokensAt w 0) = some (e.tokensAt w 0) :=
    expandTokens?_of_no_entity {} 0 fun name => entity_not_mem_tokensAt w 0 name e
  have hdepth : Declarations.maxDepth {} = 0 + 1 := rfl
  rw [readChars?]
  simp only [hbreaks, hlegal, Bool.not_true, Bool.false_eq_true, if_false, bind,
    Option.bind, hdecl, hscan, hdepth, hexpand, build?_root h]
  · rfl
  · exact hmark

/-- A plain element that is written with a line for every element is read back with its line
breaks. -/
theorem read?_indented {e : Element} (h : e.IsPlain) :
    read? e.indented = some (e.withLineBreaks 0) := by
  rw [read?, Element.indented, String.toList_ofList, ← Element.spacedText_lines,
    readChars?_spacedText h, Element.withSpacing_lines]

/-- A plain element that is written on one line is read back as it was. -/
theorem read?_inline {e : Element} (h : e.IsPlain) (hunmixed : e.All Element.IsUnmixed) :
    read? e.inline = some e := by
  rw [read?, Element.inline, String.toList_ofList, ← Element.spacedText_tight 0 e hunmixed,
    readChars?_spacedText h, Element.withSpacing_tight 0 e hunmixed]

end DiagramBridge.Xml
