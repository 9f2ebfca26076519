import Clipbook.Markup.Node

/-!
# Clipbook — trees of markup

A forest is taken apart at its first tree: behind a text come its siblings, behind an element its
children and its siblings.

Main results:

* `Node.forestInductionOn` — induction with a hypothesis for the children and one for the siblings.
-/

namespace Clipbook.Markup.Node

/-- Induction on a list of nodes: over what stands inside of the first one and what stands behind
it. -/
@[elab_as_elim]
theorem forestInductionOn {motive : List Node → Prop} (ns : List Node) (nil : motive [])
    (text : ∀ kind t ns, motive ns → motive (.text kind t :: ns))
    (element : ∀ name as void cs ns, motive cs → motive ns →
      motive (.element name as void cs :: ns)) : motive ns :=
  match ns with
  | [] => nil
  | .text kind t :: ns => text kind t ns (forestInductionOn ns nil text element)
  | .element name as void cs :: ns =>
    element name as void cs ns (forestInductionOn cs nil text element)
      (forestInductionOn ns nil text element)

theorem elementsOf_text_cons (kind : TextKind) (t : Text) (ns : List Node) :
    elementsOf (.text kind t :: ns) = elementsOf ns := by
  rw [elementsOf, elements, List.nil_append]

theorem elementsOf_element_cons (name : Text) (as : Table AttributeValue) (void : Bool)
    (cs ns : List Node) :
    elementsOf (.element name as void cs :: ns) =
      .element name as void cs :: (elementsOf cs ++ elementsOf ns) := by
  rw [elementsOf, elements, List.cons_append]

end Clipbook.Markup.Node
