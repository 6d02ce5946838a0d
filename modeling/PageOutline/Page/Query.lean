import PageOutline.Failure
import PageOutline.Page.Document
import PageOutline.Css.Parser
import PageOutline.Css.Matching

namespace PageOutline.Document

/-- The parents of a node as far as they are elements, nearest first. -/
def ancestorsTo (d : Document) : Nat → NodeId → List NodeId
  | 0, _ => []
  | fuel + 1, id =>
    match d.parent? id with
    | some parent => if d.isElement parent then parent :: d.ancestorsTo fuel parent else []
    | none => []

/-- The nodes next to `id` under its parent: those before it, nearest first, and those after it. -/
def siblings (d : Document) (id : NodeId) : List NodeId × List NodeId :=
  match d.parent? id with
  | some parent =>
    let all := d.childIds parent
    ((all.takeWhile (· != id)).reverse, (all.dropWhile (· != id)).tail)
  | none => ([], [])

def isBare (d : Document) (id : NodeId) : Bool :=
  (d.childIds id).all fun child ↦
    match d.node? child with
    | some ⟨.text s, _, _, _⟩ => s.isEmpty
    | _ => false

/-- What selectors see of a document. A text has no tag and no attributes. -/
def view (d : Document) : Css.View where
  localName id := (d.tag? id).getD ""
  attr id name := (d.attributes id).get? name
  isRoot id := (d.parent? id).isNone
  isEmpty := d.isBare
  ancestors := d.ancestorsTo d.size
  elementsBefore id := (d.siblings id).1.filter d.isElement
  elementsAfter id := (d.siblings id).2.filter d.isElement
  elementsBelow := d.descendants

def isMatch (d : Document) (selector : Css.Selector) (scope id : NodeId) : Bool :=
  selector.matches d.view scope id

/-- The elements that a query tests: those below the context, or its children. -/
def candidates (d : Document) (context : NodeId) (direct : Bool) : List NodeId :=
  if direct then (d.childIds context).filter d.isElement else d.descendants context

/-- The elements below `context` that match. A selector that cannot be read is reported before an
unknown context. -/
def query (d : Document) (context : NodeId) (selector : String) (direct : Bool) :
    Except Failure (List NodeId) :=
  match Css.Selector.parse? selector with
  | none => .error (.invalidSelector selector "not a selector")
  | some parsed =>
    match d.node? context with
    | none => .error (.unknownNode context)
    | some _ => .ok ((d.candidates context direct).filter (d.isMatch parsed context))

end PageOutline.Document
