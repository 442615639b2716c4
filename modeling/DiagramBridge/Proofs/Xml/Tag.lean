import DiagramBridge.Proofs.Text.Search
import DiagramBridge.Xml.Entity
import DiagramBridge.Xml.Writer

/-!
# Tags as they are written and read

A written attribute value has no quote, no less-than sign and no raw line break, so it ends where
its closing quote stands, and the references in it give back the value. A tag is then read from the
left: its name ends at the first character that no name has, and each attribute begins behind a
space. Every statement carries the rest of the document along.
-/

namespace DiagramBridge.Xml

open Text

/-- A name that a tag or an attribute can have without a namespace. -/
def IsSimpleName (s : List Char) : Prop :=
  (∃ c ∈ s.head?, isNameStart c = true) ∧ ∀ c ∈ s, isNameChar c = true

instance (s : List Char) : Decidable (IsSimpleName s) :=
  inferInstanceAs (Decidable (_ ∧ _))

/-- A name with no namespace in front. -/
def plainName (s : String) : QName := ⟨none, s.toList⟩

/-- An attribute as it stands in a tag: its name, and its value with references. -/
def writtenAttribute (a : String × String) : QName × List Char :=
  (plainName a.1, a.2.toList.flatMap attributeChar)

/-! ## Names -/

theorem name?_append {s rest : List Char} (hs : IsSimpleName s) (hr : Stops isNameChar rest) :
    name? (s ++ rest) = some (s, rest) := by
  obtain ⟨⟨c, hc, hstart⟩, hall⟩ := hs
  cases s with
  | nil => simp at hc
  | cons d s =>
      obtain rfl : d = c := by simpa using hc
      have hrest : ∀ e ∈ s, isNameChar e = true := fun e he => hall e (by simp [he])
      rw [List.cons_append, name?, if_pos hstart, takeWhile_append_of_stops hrest hr,
        dropWhile_append_of_stops hrest hr]

theorem qname?_append {s : String} {rest : List Char} (hs : IsSimpleName s.toList)
    (hr : Stops isNameChar rest) (hcolon : rest.head? ≠ some ':') :
    qname? (s.toList ++ rest) = some (plainName s, rest) := by
  rw [qname?, name?_append hs hr]
  cases rest with
  | nil => rfl
  | cons c rest =>
      have hc : c ≠ ':' := by simpa using hcolon
      simp only [bind, Option.bind]
      split
      · next heq =>
        exact absurd (List.cons.inj heq).1 hc
      · rfl

/-- A simple name begins with none of the characters that mark tags and spaces. -/
theorem head_of_isSimpleName {s : List Char} (hs : IsSimpleName s) (rest : List Char) :
    ∃ c r, s ++ rest = c :: r ∧ isNameStart c = true := by
  obtain ⟨⟨c, hc, hstart⟩, -⟩ := hs
  cases s with
  | nil => simp at hc
  | cons d s =>
      obtain rfl : d = c := by simpa using hc
      exact ⟨d, s ++ rest, rfl, hstart⟩

/-! ## Values -/

/-- The characters that a written value does not have. -/
def isValueMark (c : Char) : Bool :=
  c = '"' || c = '<' || c = '\r' || c = '\n' || c = '\t'

theorem attributeChar_cases (c : Char) :
    (attributeChar c = [c] ∧ c ≠ '&' ∧ isValueMark c = false) ∨
      ∀ rest, ∃ r, attributeChar c ++ rest = '&' :: r ∧ reference? r = some (.char c, rest) := by
  unfold attributeChar
  split_ifs with h1 h2 h3 h4 h5 h6 h7
  · subst h1
    exact Or.inr fun rest => ⟨_, rfl, rfl⟩
  · subst h2
    exact Or.inr fun rest => ⟨_, rfl, rfl⟩
  · subst h3
    exact Or.inr fun rest => ⟨_, rfl, rfl⟩
  · subst h4
    exact Or.inr fun rest => ⟨_, rfl, rfl⟩
  · subst h5
    exact Or.inr fun rest => ⟨_, rfl, rfl⟩
  · subst h6
    exact Or.inr fun rest => ⟨_, rfl, rfl⟩
  · subst h7
    exact Or.inr fun rest => ⟨_, rfl, rfl⟩
  · exact Or.inl ⟨rfl, h1, by simp [isValueMark, *]⟩

theorem not_isValueMark_of_mem_attributeChar {c d : Char} (h : d ∈ attributeChar c) :
    isValueMark d = false := by
  have hword : ∀ w ∈ ["&amp;", "&lt;", "&gt;", "&quot;", "&#13;", "&#10;", "&#09;"],
      ∀ d ∈ w.toList, isValueMark d = false := by decide
  unfold attributeChar at h
  split_ifs at h with h1 h2 h3 h4 h5 h6 h7
  · exact hword "&amp;" (by simp) d h
  · exact hword "&lt;" (by simp) d h
  · exact hword "&gt;" (by simp) d h
  · exact hword "&quot;" (by simp) d h
  · exact hword "&#13;" (by simp) d h
  · exact hword "&#10;" (by simp) d h
  · exact hword "&#09;" (by simp) d h
  · rw [List.mem_singleton] at h
    subst h
    simp [isValueMark, *]

theorem not_mem_writtenValue {s : List Char} {d : Char} (hd : isValueMark d = true) :
    d ∉ s.flatMap attributeChar := by
  intro h
  obtain ⟨c, -, hc⟩ := List.mem_flatMap.1 h
  rw [not_isValueMark_of_mem_attributeChar hc] at hd
  exact absurd hd (by simp)

theorem attributeChar_ne_nil (c : Char) : attributeChar c ≠ [] := by
  rcases attributeChar_cases c with ⟨h, -⟩ | h
  · simp [h]
  · obtain ⟨r, hr, -⟩ := h []
    rw [List.append_nil] at hr
    simp [hr]

/-- The pieces of a written value are the characters of the value. -/
theorem valuePieces?_written (s : List Char) :
    ∀ fuel, s.length < fuel →
      valuePieces? fuel (s.flatMap attributeChar) = some (s.map .char) := by
  induction s with
  | nil =>
      intro fuel hf
      obtain ⟨fuel, rfl⟩ := Nat.exists_eq_succ_of_ne_zero (Nat.ne_of_gt hf)
      rfl
  | cons c s ih =>
      intro fuel hf
      obtain ⟨fuel, rfl⟩ := Nat.exists_eq_succ_of_ne_zero (Nat.ne_of_gt (Nat.zero_lt_of_lt hf))
      have hs := ih fuel (by simpa using hf)
      rw [List.flatMap_cons]
      rcases attributeChar_cases c with ⟨hc, hamp, hmark⟩ | h
      · have hlt : c ≠ '<' := by
          rintro rfl
          exact absurd hmark (by decide)
        have hsp : (if isSpace c then ' ' else c) = c := by
          by_cases hspace : c = ' '
          · subst hspace
            rfl
          · rw [if_neg]
            simp only [isValueMark, isSpace, Bool.or_eq_false_iff, decide_eq_false_iff_not]
              at hmark ⊢
            simp [hspace, hmark]
        rw [hc, List.singleton_append, valuePieces?.eq_4 _ _ _ (by simpa using hamp), if_neg hlt,
          hsp, hs]
        rfl
      · obtain ⟨r, hr, href⟩ := h (s.flatMap attributeChar)
        rw [hr, valuePieces?, href]
        simp [hs]

theorem length_le_writtenValue (s : List Char) : s.length ≤ (s.flatMap attributeChar).length := by
  induction s with
  | nil => simp
  | cons c s ih =>
      have h := List.length_pos_of_ne_nil (attributeChar_ne_nil c)
      rw [List.flatMap_cons, List.length_append, List.length_cons]
      omega

/-- A step that succeeds at every item succeeds on the list. -/
theorem mapM_of_forall_eq_some {α β : Type} {f : α → Option β} {g : α → β} {l : List α}
    (h : ∀ a ∈ l, f a = some (g a)) : l.mapM f = some (l.map g) := by
  induction l with
  | nil => rfl
  | cons a l ih =>
      rw [List.mapM_cons, h a (by simp), ih fun b hb => h b (by simp [hb])]
      rfl

/-- The text that a piece stands for where no entity is in the value. -/
def ValuePiece.plain : ValuePiece → List Char
  | char c => [c]
  | entity _ => []

/-- A written value is read back, whatever is declared. -/
theorem attributeValue?_written (d : Declarations) (depth : Nat) (s : List Char) :
    attributeValue? d (depth + 1) (s.flatMap attributeChar) = some s := by
  have hlen := length_le_writtenValue s
  rw [attributeValue?, valuePieces?_written s _ (by omega)]
  simp only [bind, Option.bind]
  rw [mapM_of_forall_eq_some (g := ValuePiece.plain)]
  · rw [List.map_map]
    exact congrArg some (List.flatMap_singleton' s)
  · intro p hp
    obtain ⟨c, -, rfl⟩ := List.mem_map.1 hp
    rfl

/-! ## Attributes and start tags -/

/-- The mark that ends a start tag. -/
def tagEnd (isEmpty : Bool) : List Char :=
  if isEmpty then " />".toList else ['>']

theorem attribute?_written {a : String × String} (ha : IsSimpleName a.1.toList)
    (rest : List Char) :
    attribute? (a.1.toList ++ "=\"".toList ++ a.2.toList.flatMap attributeChar ++ ['"'] ++ rest) =
      some (writtenAttribute a, rest) := by
  have hshape : a.1.toList ++ "=\"".toList ++ a.2.toList.flatMap attributeChar ++ ['"'] ++ rest =
      a.1.toList ++ ('=' :: '"' :: (a.2.toList.flatMap attributeChar ++ '"' :: rest)) := by simp
  have hname : qname? (a.1.toList ++ ('=' :: '"' :: (a.2.toList.flatMap attributeChar ++
      '"' :: rest))) =
        some (plainName a.1, '=' :: '"' :: (a.2.toList.flatMap attributeChar ++ '"' :: rest)) :=
    qname?_append ha (by simp; decide) (by simp)
  have heq : after? "=" (skipSpace ('=' :: '"' :: (a.2.toList.flatMap attributeChar ++
      '"' :: rest))) = some ('"' :: (a.2.toList.flatMap attributeChar ++ '"' :: rest)) := rfl
  have hcut : cutAt? '"' (a.2.toList.flatMap attributeChar ++ '"' :: rest) =
      some (a.2.toList.flatMap attributeChar, rest) :=
    cutAt?_append (not_mem_writtenValue (by decide)) rest
  have hlt : (a.2.toList.flatMap attributeChar).contains '<' = false := by
    simpa using not_mem_writtenValue (s := a.2.toList) (d := '<') (by decide)
  rw [hshape, attribute?, hname]
  simp only [bind, Option.bind, heq]
  have hquote : skipSpace ('"' :: (a.2.toList.flatMap attributeChar ++ '"' :: rest)) =
      '"' :: (a.2.toList.flatMap attributeChar ++ '"' :: rest) := rfl
  rw [hquote]
  simp only [decide_true, Bool.true_or, if_true, hcut, hlt]
  rfl

/-- The marks that end a start tag and the white space before an attribute begin no name. -/
theorem mark_ne_of_isNameStart {c : Char} (hc : isNameStart c = true) :
    isSpace c = false ∧ c ≠ '>' ∧ c ≠ '/' := by
  have hmarks : ∀ d ∈ [' ', '\t', '\r', '\n', '>', '/'], isNameStart d = false := by decide
  have hne : ∀ d ∈ [' ', '\t', '\r', '\n', '>', '/'], c ≠ d := by
    rintro d hd rfl
    rw [hmarks c hd] at hc
    exact absurd hc (by simp)
  refine ⟨?_, hne '>' (by simp), hne '/' (by simp)⟩
  simp only [isSpace, Bool.or_eq_false_iff, decide_eq_false_iff_not]
  exact ⟨⟨⟨hne _ (by simp), hne _ (by simp)⟩, hne _ (by simp)⟩, hne _ (by simp)⟩

/-- One attribute behind a space, and then those that follow it. -/
theorem attributes?_cons {c : Char} {s rest after : List Char} {isEmpty : Bool}
    {first : QName × List Char} {more : List (QName × List Char)} {fuel : Nat}
    (hc : isNameStart c = true) (hfirst : attribute? (c :: s) = some (first, rest))
    (hmore : attributes? fuel rest = some (more, isEmpty, after)) :
    attributes? (fuel + 1) (' ' :: c :: s) = some (first :: more, isEmpty, after) := by
  obtain ⟨hspace, hgt, hslash⟩ := mark_ne_of_isNameStart hc
  have hskip : skipSpace (' ' :: c :: s) = c :: s := by
    rw [skipSpace, List.dropWhile_cons, if_pos (by decide), List.dropWhile_cons, if_neg]
    simp [hspace]
  have hspace? : space? (' ' :: c :: s) = some (c :: s) := by
    have hdrop : skipSpace (c :: s) = c :: s := by
      rw [skipSpace, List.dropWhile_cons, if_neg]
      simp [hspace]
    rw [space?, if_pos (by decide), hdrop]
  rw [attributes?, hskip]
  split
  · next heq => exact absurd (List.cons.inj heq).1 hgt
  · next heq => exact absurd (List.cons.inj heq).1 hslash
  · simp only [bind, Option.bind, hspace?, hfirst, hmore]

theorem attributes?_written (isEmpty : Bool) (rest : List Char)
    {attributes : List (String × String)} (h : ∀ a ∈ attributes, IsSimpleName a.1.toList) :
    ∀ fuel, attributes.length < fuel →
      attributes? fuel (attributes.flatMap attributeText ++ tagEnd isEmpty ++ rest) =
        some (attributes.map writtenAttribute, isEmpty, rest) := by
  induction attributes with
  | nil =>
      intro fuel hf
      obtain ⟨fuel, rfl⟩ := Nat.exists_eq_succ_of_ne_zero (Nat.ne_of_gt hf)
      cases isEmpty <;> rfl
  | cons a attributes ih =>
      intro fuel hf
      obtain ⟨fuel, rfl⟩ := Nat.exists_eq_succ_of_ne_zero (Nat.ne_of_gt (Nat.zero_lt_of_lt hf))
      have ha := h a (by simp)
      have hmore := ih (fun b hb => h b (by simp [hb])) fuel (by simpa using hf)
      have hfirst := attribute?_written ha
        (attributes.flatMap attributeText ++ tagEnd isEmpty ++ rest)
      obtain ⟨c, s, hcons, hc⟩ := head_of_isSimpleName ha ("=\"".toList ++
        a.2.toList.flatMap attributeChar ++ ['"'] ++
          (attributes.flatMap attributeText ++ tagEnd isEmpty ++ rest))
      have hshape : (a :: attributes).flatMap attributeText ++ tagEnd isEmpty ++ rest =
          ' ' :: c :: s := by
        rw [← hcons]
        simp [attributeText]
      have hattribute : attribute? (c :: s) = some (writtenAttribute a,
          attributes.flatMap attributeText ++ tagEnd isEmpty ++ rest) := by
        rw [← hcons, ← hfirst]
        simp
      rw [hshape]
      exact attributes?_cons hc hattribute hmore

theorem length_le_attributeTexts (attributes : List (String × String)) :
    attributes.length ≤ (attributes.flatMap attributeText).length := by
  induction attributes with
  | nil => simp
  | cons a attributes ih =>
      rw [List.flatMap_cons, List.length_append, List.length_cons]
      simp only [attributeText, List.cons_append, List.length_cons]
      omega

theorem startTag?_written (isEmpty : Bool) (rest : List Char) {tag : String}
    {attributes : List (String × String)} (htag : IsSimpleName tag.toList)
    (h : ∀ a ∈ attributes, IsSimpleName a.1.toList) :
    startTag? (tag.toList ++ attributes.flatMap attributeText ++ tagEnd isEmpty ++ rest) =
      some (.startTag (plainName tag) (attributes.map writtenAttribute) isEmpty, rest) := by
  have hhead : ∃ c ∈ [' ', '>'], (attributes.flatMap attributeText ++ tagEnd isEmpty ++ rest).head?
      = some c := by
    cases attributes with
    | nil => cases isEmpty <;> simp [tagEnd]
    | cons a attributes => simp [attributeText]
  obtain ⟨c, hc, hhead⟩ := hhead
  have hstop : Stops isNameChar (attributes.flatMap attributeText ++ tagEnd isEmpty ++ rest) := by
    intro d hd
    rw [hhead, Option.mem_some] at hd
    subst hd
    have : ∀ c ∈ [' ', '>'], isNameChar c = false := by decide
    exact this c hc
  have hcolon : (attributes.flatMap attributeText ++ tagEnd isEmpty ++ rest).head? ≠ some ':' := by
    rw [hhead]
    rintro heq
    obtain rfl := Option.some.inj heq
    exact absurd hc (by decide)
  have hlen := length_le_attributeTexts attributes
  have hattr := attributes?_written isEmpty rest h
    ((attributes.flatMap attributeText ++ tagEnd isEmpty ++ rest).length + 1) (by
      rw [List.length_append, List.length_append]
      omega)
  rw [List.append_assoc, List.append_assoc, ← List.append_assoc (attributes.flatMap _), startTag?,
    qname?_append htag hstop hcolon]
  simp only [bind, Option.bind, hattr]

theorem endTag?_written {tag : String} (htag : IsSimpleName tag.toList) (rest : List Char) :
    endTag? (tag.toList ++ '>' :: rest) = some (.endTag (plainName tag), rest) := by
  have hname : qname? (tag.toList ++ '>' :: rest) = some (plainName tag, '>' :: rest) :=
    qname?_append htag (by simp; decide) (by simp)
  rw [endTag?, hname]
  rfl

end DiagramBridge.Xml
