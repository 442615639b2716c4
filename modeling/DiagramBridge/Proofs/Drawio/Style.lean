import DiagramBridge.Drawio.Style
import DiagramBridge.Proofs.Text.Blank
import DiagramBridge.Proofs.Text.Case
import DiagramBridge.Proofs.Text.Fresh
import Mathlib.Data.List.Find

/-!
# Written styles are read back

Each meaning has one written style, and reading that style gives the meaning again. A class box is
drawn as a rectangle, and a relation is drawn by a line with an arrowhead. The meanings are few, so
what is said of each of them is decided for the list of all.

The tokens of a style may stand in any order as long as no key is given twice. A word that tells a
shape has no semicolon in it, so it lies within one token; and the value of a key is that of its one
token.
-/

namespace DiagramBridge

theorem Shape.mem_all (shape : Shape) : shape ∈ Shape.all := by
  cases shape <;> decide

theorem LineStyle.mem_all (lineStyle : LineStyle) : lineStyle ∈ LineStyle.all := by
  cases lineStyle <;> decide

theorem Relation.mem_all (relation : Relation) : relation ∈ Relation.all := by
  cases relation <;> decide

/-- The shape that a shape is drawn as. -/
def Shape.drawn : Shape → Shape
  | .classBox => .rectangle
  | shape => shape

/-- The line that a relation is drawn with. -/
def Relation.lineStyle : Relation → LineStyle
  | association | aggregation | inheritance => .plain
  | realization | dependency => .dashed

namespace Drawio

open Text

/-- What is read from the style of each shape. Only a container has the word for one in its style. -/
theorem read_vertexStyle : ∀ shape ∈ Shape.all, shapeOf (vertexStyle shape) = shape.drawn ∧
    occursIn "swimlane".toList (vertexStyle shape).toList = decide (shape = .subgraph) := by
  decide +kernel

theorem shapeOf_vertexStyle (shape : Shape) : shapeOf (vertexStyle shape) = shape.drawn :=
  (read_vertexStyle shape shape.mem_all).1

theorem occursIn_swimlane_vertexStyle (shape : Shape) :
    occursIn "swimlane".toList (vertexStyle shape).toList = decide (shape = .subgraph) :=
  (read_vertexStyle shape shape.mem_all).2

/-! ## Settings one behind the other -/

theorem settings_append {s : String} (h : s.toList.getLast? = some ';') (t : String) :
    settings (s ++ t) = settings s ++ settings t := by
  obtain ⟨front, hfront⟩ := List.getLast?_eq_some_iff.1 h
  have hempty : (front ++ [';']).splitOn ';' = front.splitOn ';' ++ [[]] :=
    List.splitOn_append_cons_self front []
  rw [settings, settings, settings, String.toList_append, hfront, List.append_assoc,
    List.singleton_append, List.splitOn_append_cons_self, hempty, List.filterMap_append,
    List.filterMap_append]
  congr 1
  exact (List.append_nil _).symm

/-- Later settings count. -/
theorem setting?_append {s : String} (h : s.toList.getLast? = some ';') (t key : String) :
    setting? (s ++ t) key = (setting? t key).or (setting? s key) := by
  rw [setting?, settings_append h, List.reverse_append, List.lookup_append]
  rfl

/-! ## Edges -/

/-- The settings that tell edges apart. -/
def edgeSettings (lineStyle : LineStyle) (arrowEnd : Bool) : Option Relation → String
  | some relation => relationSettings relation
  | none => lineSettings lineStyle ++ if arrowEnd then "" else "endArrow=none;"

/-- What is read from the settings of each line without a relation. -/
theorem read_lineSettings : ∀ lineStyle ∈ LineStyle.all, ∀ arrowEnd,
    lineStyleOf (edgeSettings lineStyle arrowEnd none) = lineStyle ∧
      (endArrow (edgeSettings lineStyle arrowEnd none) != "none") = arrowEnd := by
  decide +kernel

/-- What is read from the settings of each relation. -/
theorem read_relationSettings : ∀ relation ∈ Relation.all,
    lineStyleOf (relationSettings relation) = relation.lineStyle ∧
      (endArrow (relationSettings relation) != "none") = true ∧
        relationOf (relationSettings relation) = relation := by
  decide +kernel

theorem settings_baseEdgeStyle : settings baseEdgeStyle =
    [("edgeStyle", "orthogonalEdgeStyle"), ("rounded", "1"), ("orthogonalLoop", "1"),
      ("jettySize", "auto"), ("html", "1")] := by
  rw [settings, baseEdgeStyle, String.toList_ofList]
  decide +kernel

/-- What all edges have in common says nothing about line and arrowhead. -/
theorem setting?_edgeStyle (lineStyle : LineStyle) (arrowEnd : Bool) (relation : Option Relation)
    {key : String} (hkey : key ∈ ["dashed", "strokeWidth", "endArrow"]) :
    setting? (edgeStyle lineStyle arrowEnd relation) key =
      setting? (edgeSettings lineStyle arrowEnd relation) key := by
  have hbase : ∀ key ∈ ["dashed", "strokeWidth", "endArrow"], setting? baseEdgeStyle key = none := by
    simp only [setting?, settings_baseEdgeStyle]
    decide
  have hsplit : edgeStyle lineStyle arrowEnd relation =
      baseEdgeStyle ++ edgeSettings lineStyle arrowEnd relation := by
    cases relation with
    | none => exact String.append_assoc ..
    | some relation => rfl
  have hend : baseEdgeStyle.toList.getLast? = some ';' := by
    rw [baseEdgeStyle, String.toList_ofList]
    rfl
  rw [hsplit, setting?_append hend, hbase key hkey, Option.or_none]

theorem lineStyleOf_edgeStyle (lineStyle : LineStyle) (arrowEnd : Bool)
    (relation : Option Relation) :
    lineStyleOf (edgeStyle lineStyle arrowEnd relation) =
      (relation.map Relation.lineStyle).getD lineStyle := by
  have h : lineStyleOf (edgeStyle lineStyle arrowEnd relation) =
      lineStyleOf (edgeSettings lineStyle arrowEnd relation) := by
    rw [lineStyleOf, lineStyleOf, isDashed, isDashed, strokeWidth, strokeWidth,
      setting?_edgeStyle _ _ _ (by simp), setting?_edgeStyle _ _ _ (by simp)]
  rw [h]
  cases relation with
  | none => exact (read_lineSettings lineStyle lineStyle.mem_all arrowEnd).1
  | some relation => exact (read_relationSettings relation relation.mem_all).1

theorem endArrow_edgeStyle (lineStyle : LineStyle) (arrowEnd : Bool)
    (relation : Option Relation) :
    endArrow (edgeStyle lineStyle arrowEnd relation) =
      endArrow (edgeSettings lineStyle arrowEnd relation) := by
  rw [endArrow, endArrow, setting?_edgeStyle _ _ _ (by simp)]

theorem hasEndArrow_edgeStyle (lineStyle : LineStyle) (arrowEnd : Bool)
    (relation : Option Relation) :
    hasEndArrow (edgeStyle lineStyle arrowEnd relation) = (relation.isSome || arrowEnd) := by
  rw [hasEndArrow, endArrow_edgeStyle]
  cases relation with
  | none => exact (read_lineSettings lineStyle lineStyle.mem_all arrowEnd).2
  | some relation => exact (read_relationSettings relation relation.mem_all).2.1

theorem relationOf_edgeStyle (lineStyle : LineStyle) (arrowEnd : Bool) (relation : Relation) :
    relationOf (edgeStyle lineStyle arrowEnd (some relation)) = relation := by
  have h : relationOf (edgeStyle lineStyle arrowEnd (some relation)) =
      relationOf (relationSettings relation) := by
    rw [relationOf, relationOf, endArrow_edgeStyle, isDashed, isDashed,
      setting?_edgeStyle _ _ _ (by simp)]
    rfl
  rw [h]
  exact (read_relationSettings relation relation.mem_all).2.2

/-! ## The order of the tokens -/

/-- What stands between the semicolons of a style string. -/
def tokens (style : String) : List (List Char) :=
  style.toList.splitOn ';'

/-- The style string that has the given tokens. -/
def ofTokens (ts : List (List Char)) : String :=
  String.ofList (List.intercalate [';'] ts)

/-- The setting that a token makes, with its key trimmed. A blank token makes none. -/
def settingOf? (token : List Char) : Option (String × String) :=
  match cutAt? '=' (trim token) with
  | some (key, value) => some (String.ofList (trim key), String.ofList (trim value))
  | none => if (trim token).isEmpty then none else some (String.ofList (trim token), "1")

theorem settings_eq_filterMap (style : String) :
    settings style = (tokens style).filterMap settingOf? := rfl

theorem semicolon_not_mem_of_mem_tokens {style : String} {t : List Char} (h : t ∈ tokens style) :
    ';' ∉ t := by
  rw [tokens, List.splitOn_eq_splitOnP] at h
  intro hmem
  simpa using (not_of_mem_splitOnP h ';' hmem).1

/-- Tokens in another order are the tokens of a style string too. -/
theorem tokens_ofTokens_of_perm {style : String} {ts : List (List Char)}
    (h : ts.Perm (tokens style)) : tokens (ofTokens ts) = ts := by
  have hne : ts ≠ [] := by
    rintro rfl
    exact List.splitOn_ne_nil ';' _ h.nil_eq.symm
  rw [tokens, ofTokens, String.toList_ofList]
  exact List.splitOn_intercalate ';'
    (fun t ht => semicolon_not_mem_of_mem_tokens (h.mem_iff.1 ht)) hne

/-- A word that has no semicolon lies within a token, wherever the token stands. -/
theorem occursIn_lower_iff {word : List Char} (h : ';' ∉ word) (style : String) :
    occursIn word (lower style.toList) = true ↔ ∃ t ∈ tokens style, word <:+: lower t := by
  have hstyle : style.toList = List.intercalate [';'] (tokens style) :=
    (List.intercalate_splitOn ';').symm
  have hne : (tokens style).map lower ≠ [] :=
    mt List.map_eq_nil_iff.1 (List.splitOn_ne_nil ';' style.toList)
  rw [occursIn_iff, hstyle, lower_intercalate_semicolon, isInfix_intercalate_iff h hne]
  simp

theorem semicolon_not_mem_shapeRules :
    ∀ rule ∈ shapeRules, ∀ word ∈ rule.1, ';' ∉ word.toList := by
  decide +kernel

section Perm

variable {style other : String} (h : (tokens other).Perm (tokens style))
include h

/-- The words that tell a shape are found in any order of the tokens. -/
theorem shapeOf_eq_of_perm : shapeOf other = shapeOf style := by
  have hrule : ∀ rule ∈ shapeRules,
      (rule.1.all fun word => occursIn word.toList (lower other.toList)) =
        rule.1.all fun word => occursIn word.toList (lower style.toList) := by
    intro rule hrule
    rw [Bool.eq_iff_iff, List.all_eq_true, List.all_eq_true]
    refine forall₂_congr fun word hword => ?_
    have hno := semicolon_not_mem_shapeRules rule hrule word hword
    rw [occursIn_lower_iff hno, occursIn_lower_iff hno]
    exact exists_congr fun t => and_congr_left fun _ => h.mem_iff
  rw [shapeOf, shapeOf, List.find?_congr hrule]

variable (hkeys : ((settings style).map Prod.fst).Nodup)
include hkeys

theorem setting?_eq_of_perm (key : String) : setting? other key = setting? style key := by
  have hsettings : (settings other).Perm (settings style) := by
    rw [settings_eq_filterMap, settings_eq_filterMap]
    exact h.filterMap settingOf?
  have hreverse : (settings style).reverse.Perm (settings other).reverse :=
    (List.reverse_perm _).trans (hsettings.symm.trans (List.reverse_perm _).symm)
  refine (lookup_eq_of_perm hreverse ?_ key).symm
  rwa [List.map_reverse, List.nodup_reverse]

end Perm

/-- **Tokens may stand in any order.** Where no key is given twice, the tokens of a style say the
same in any order: the shape, the line, the arrowhead and the relation are those of the style. -/
theorem readings_ofTokens_of_perm {style : String} {ts : List (List Char)}
    (hkeys : ((settings style).map Prod.fst).Nodup) (hperm : ts.Perm (tokens style)) :
    shapeOf (ofTokens ts) = shapeOf style ∧ lineStyleOf (ofTokens ts) = lineStyleOf style ∧
      hasEndArrow (ofTokens ts) = hasEndArrow style ∧
        relationOf (ofTokens ts) = relationOf style := by
  have h : (tokens (ofTokens ts)).Perm (tokens style) := by rwa [tokens_ofTokens_of_perm hperm]
  have hsetting := setting?_eq_of_perm h hkeys
  have hdashed : isDashed (ofTokens ts) = isDashed style := by rw [isDashed, isDashed, hsetting]
  have hwidth : strokeWidth (ofTokens ts) = strokeWidth style := by
    rw [strokeWidth, strokeWidth, hsetting]
  have harrow : endArrow (ofTokens ts) = endArrow style := by rw [endArrow, endArrow, hsetting]
  refine ⟨shapeOf_eq_of_perm h, ?_, ?_, ?_⟩
  · rw [lineStyleOf, lineStyleOf, hdashed, hwidth]
  · rw [hasEndArrow, hasEndArrow, harrow]
  · rw [relationOf, relationOf, hdashed, harrow]

/-- Settings with white space around them, a key alone and two blank tokens. -/
def looseStyle : String := "rounded=1; endArrow = Block;;dashed;ARCSIZE=50;"

theorem readings_ofTokens_of_perm_looseStyle :
    ((settings looseStyle).map Prod.fst).Nodup ∧
      (tokens looseStyle).reverse.Perm (tokens looseStyle) ∧
        ofTokens (tokens looseStyle).reverse = ";ARCSIZE=50;dashed;; endArrow = Block;rounded=1" ∧
          shapeOf (ofTokens (tokens looseStyle).reverse) = .stadium ∧
            lineStyleOf (ofTokens (tokens looseStyle).reverse) = .dashed ∧
              hasEndArrow (ofTokens (tokens looseStyle).reverse) = true ∧
                relationOf (ofTokens (tokens looseStyle).reverse) = .realization := by
  have hkeys : ((settings looseStyle).map Prod.fst).Nodup := by decide +kernel
  have hperm : (tokens looseStyle).reverse.Perm (tokens looseStyle) := List.reverse_perm _
  have hshape : shapeOf looseStyle = .stadium := by decide +kernel
  have hline : lineStyleOf looseStyle = .dashed := by decide +kernel
  have harrow : hasEndArrow looseStyle = true := by decide +kernel
  have hrelation : relationOf looseStyle = .realization := by decide +kernel
  obtain ⟨hs, hl, ha, hr⟩ := readings_ofTokens_of_perm hkeys hperm
  exact ⟨hkeys, hperm, by decide +kernel, hs.trans hshape, hl.trans hline, ha.trans harrow,
    hr.trans hrelation⟩

/-- A key that is given twice depends on the order. -/
example : isDashed "dashed=1;dashed=0" = false ∧ isDashed "dashed=0;dashed=1" = true := by
  decide +kernel

end Drawio

end DiagramBridge
