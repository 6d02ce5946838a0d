import PageOutline.OrderedMap
import PageOutline.Page.Markup

namespace PageOutline

/-- What stands below a node of an outline. -/
inductive OutlineNode where
  | element (tag : String) (attributes : OrderedMap String) (text : Option String)
    (children : List OutlineNode)
  | separator

instance : Inhabited OutlineNode := ⟨.separator⟩

structure Outline where
  tag : String
  attributes : OrderedMap String
  text : Option String
  children : List OutlineNode
  deriving Inhabited

def Outline.toNode (o : Outline) : OutlineNode :=
  .element o.tag o.attributes o.text o.children

namespace OutlineNode

def outline? : OutlineNode → Option Outline
  | .element tag attributes text children => some ⟨tag, attributes, text, children⟩
  | .separator => none

def isSeparator : OutlineNode → Bool
  | .separator => true
  | .element _ _ _ _ => false

mutual

def elements : OutlineNode → List Outline
  | .element tag attributes text children => ⟨tag, attributes, text, children⟩ :: elementsAll children
  | .separator => []

def elementsAll : List OutlineNode → List Outline
  | [] => []
  | n :: ns => n.elements ++ elementsAll ns

end

mutual

def count : OutlineNode → Nat
  | .element _ _ _ children => 1 + countAll children
  | .separator => 0

def countAll : List OutlineNode → Nat
  | [] => 0
  | n :: ns => n.count + countAll ns

end

def separatorMarkup : String := "<hr>"

mutual

/-- The markup of a node. An element is written with its end tag whatever its tag. -/
def markup : OutlineNode → String
  | .element tag attributes text children =>
    Markup.startTag tag attributes.entries ++ (text.map Markup.escapeText).getD "" ++
      markupAll children ++ Markup.endTag tag
  | .separator => separatorMarkup

def markupAll : List OutlineNode → String
  | [] => ""
  | n :: ns => n.markup ++ markupAll ns

end

mutual

def findByName (name : String) : OutlineNode → Option Outline
  | .element tag attributes text children =>
    if attributes.get? "name" = some name then some ⟨tag, attributes, text, children⟩
    else findByNameAmong name children
  | .separator => none

def findByNameAmong (name : String) : List OutlineNode → Option Outline
  | [] => none
  | n :: ns =>
    match n.findByName name with
    | some o => some o
    | none => findByNameAmong name ns

end

mutual

/-- Adds the elements with the given name behind those already found, in document order. -/
def findAllByName (name : String) (found : List Outline) : OutlineNode → List Outline
  | .element tag attributes text children =>
    findAllByNameAmong name
      (if attributes.get? "name" = some name then found ++ [⟨tag, attributes, text, children⟩]
        else found)
      children
  | .separator => found

def findAllByNameAmong (name : String) (found : List Outline) : List OutlineNode → List Outline
  | [] => found
  | n :: ns => findAllByNameAmong name (n.findAllByName name found) ns

end

end OutlineNode

namespace Outline

def ofTag (tag : String) : Outline := ⟨tag, ∅, none, []⟩

def setAttribute (o : Outline) (name value : String) : Outline :=
  { o with attributes := o.attributes.insert name value }

def withText (o : Outline) (text : String) : Outline := { o with text := some text }

def pushNode (o : Outline) (n : OutlineNode) : Outline :=
  { o with children := o.children ++ [n] }

def push (o : Outline) (child : Outline) : Outline := o.pushNode child.toNode

def pushSeparator (o : Outline) : Outline := o.pushNode .separator

def name? (o : Outline) : Option String := o.attributes.get? "name"

def childElements (o : Outline) : List Outline := o.children.filterMap OutlineNode.outline?

def separatorCount (o : Outline) : Nat := o.children.countP OutlineNode.isSeparator

def count (o : Outline) : Nat := o.toNode.count

def markup (o : Outline) : String := o.toNode.markup

def findByName (o : Outline) (name : String) : Option Outline := o.toNode.findByName name

def findAllByName (o : Outline) (name : String) (found : List Outline) : List Outline :=
  o.toNode.findAllByName name found

end Outline

end PageOutline
