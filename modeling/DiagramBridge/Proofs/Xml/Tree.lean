import DiagramBridge.Xml.Element

/-!
# What holds of every element of a tree

`e.All P` says that `P` holds of an element and of all elements inside it. It is proved from the
leaves up: it holds of an element if `P` does and `All P` holds of its children.
-/

namespace DiagramBridge.Xml.Element

theorem mem_forestElements {d : Element} {es : List Element} :
    d ∈ forestElements es ↔ ∃ e ∈ es, d ∈ e.selfAndDescendants := by
  induction es with
  | nil => simp [forestElements]
  | cons e es ih => simp [forestElements, ih]

theorem forestElements_append (es fs : List Element) :
    forestElements (es ++ fs) = forestElements es ++ forestElements fs := by
  induction es with
  | nil => rfl
  | cons e es ih => rw [List.cons_append, forestElements, ih, forestElements, List.append_assoc]

theorem forestElements_flatMap {α : Type} (f : α → List Element) (as : List α) :
    forestElements (as.flatMap f) = as.flatMap fun a => forestElements (f a) := by
  induction as with
  | nil => rfl
  | cons a as ih => rw [List.flatMap_cons, forestElements_append, ih, List.flatMap_cons]

/-- A property of an element and of all elements inside it. -/
def All (P : Element → Prop) (e : Element) : Prop :=
  ∀ d ∈ e.selfAndDescendants, P d

theorem all_mk {P : Element → Prop} {tag : String} {attributes : List (String × String)}
    {text : String} {children : List Element} :
    (mk tag attributes text children).All P ↔
      P (mk tag attributes text children) ∧ ∀ e ∈ children, e.All P := by
  rw [All, selfAndDescendants, List.forall_mem_cons]
  refine and_congr_right fun _ => ?_
  constructor
  · intro h e he d hd
    exact h d (mem_forestElements.2 ⟨e, he, hd⟩)
  · intro h d hd
    obtain ⟨e, he, hd⟩ := mem_forestElements.1 hd
    exact h e he d hd

theorem All.self {P : Element → Prop} {e : Element} (h : e.All P) : P e := by
  obtain ⟨tag, attributes, text, children⟩ := e
  exact (all_mk.1 h).1

theorem All.and {P Q : Element → Prop} {e : Element} :
    e.All (fun d => P d ∧ Q d) ↔ e.All P ∧ e.All Q :=
  ⟨fun h => ⟨fun d hd => (h d hd).1, fun d hd => (h d hd).2⟩, fun h d hd => ⟨h.1 d hd, h.2 d hd⟩⟩

end DiagramBridge.Xml.Element
