import PageOutline.Recipe.Basic
import PageOutline.Json.Printer

namespace PageOutline

structure Registry where
  clickables : OrderedMap Recipe
  inputs : OrderedMap Recipe
  deriving Inhabited

namespace Registry

instance : EmptyCollection Registry := ⟨⟨∅, ∅⟩⟩

def addClickable (r : Registry) (name : String) (recipe : Recipe) : Registry :=
  { r with clickables := r.clickables.insert name recipe }

def addInput (r : Registry) (name : String) (recipe : Recipe) : Registry :=
  { r with inputs := r.inputs.insert name recipe }

def size (r : Registry) : Nat := r.clickables.size + r.inputs.size

def isEmpty (r : Registry) : Bool := r.clickables.isEmpty && r.inputs.isEmpty

def selectors (m : OrderedMap Recipe) : List (String × String) :=
  m.entries.map fun (name, recipe) ↦ (name, recipe.selector)

def toText (r : Registry) : String :=
  let part (m : OrderedMap Recipe) : Json :=
    .object ((selectors m).map fun (name, selector) ↦ (name, .string selector))
  (Json.object [("clickables", part r.clickables), ("inputs", part r.inputs)]).canonical.pretty

end Registry

end PageOutline
