import PageOutline.Page.Snapshot
import PageOutline.Page.Markup
import PageOutline.Text.Ascii

namespace PageOutline

open Text (asciiLower)

abbrev NodeId := Nat

/-- Tags and attribute names are lowered when they are stored. -/
inductive NodeContent where
  | element (tag : String) (attributes : OrderedMap String)
  | text (s : String)
  deriving DecidableEq, Inhabited

def NodeContent.setAttribute (name value : String) : NodeContent → NodeContent
  | .element tag attributes => .element tag (attributes.insert (asciiLower name) value)
  | .text s => .text s

structure NodeEntry where
  content : NodeContent
  parent : Option NodeId
  children : List NodeId
  box : Option Box
  deriving Inhabited

structure Document where
  nodes : Array NodeEntry
  viewport : Box
  deriving Inhabited

/-- The subtree of a node: what stands below a text is no part of it. -/
inductive Tree where
  | text (id : NodeId) (s : String)
  | element (id : NodeId) (tag : String) (attributes : OrderedMap String) (children : List Tree)

instance : Inhabited Tree := ⟨.text 0 ""⟩

namespace Tree

mutual

/-- The numbers of the elements of a tree, an element before those below it. -/
def elements : Tree → List NodeId
  | .text _ _ => []
  | .element id _ _ children => id :: elementsAll children

def elementsAll : List Tree → List NodeId
  | [] => []
  | t :: ts => t.elements ++ elementsAll ts

end

mutual

def textContent : Tree → String
  | .text _ s => s
  | .element _ _ _ children => textContentAll children

def textContentAll : List Tree → String
  | [] => ""
  | t :: ts => t.textContent ++ textContentAll ts

end

mutual

def markup : Tree → String
  | .text _ s => Markup.escapeText s
  | .element _ tag attributes children =>
    Markup.startTag tag attributes.entries ++
      if Markup.voidTags.contains tag then "" else markupAll children ++ Markup.endTag tag

def markupAll : List Tree → String
  | [] => ""
  | t :: ts => t.markup ++ markupAll ts

end

def children : Tree → List Tree
  | .text _ _ => []
  | .element _ _ _ children => children

end Tree

namespace Document

def new (tag : String) : Document :=
  ⟨#[⟨.element (asciiLower tag) ∅, none, [], none⟩], .defaultViewport⟩

def root : NodeId := 0

def withViewport (d : Document) (viewport : Box) : Document := { d with viewport }

def size (d : Document) : Nat := d.nodes.size

/-- Adds a node as the last child of `parent`. Its number is the next one. -/
def appendNode (d : Document) (parent : NodeId) (content : NodeContent) : Document :=
  let id := d.nodes.size
  { d with
    nodes := (d.nodes.push ⟨content, some parent, [], none⟩).modify parent fun n ↦
      { n with children := n.children ++ [id] } }

def appendElement (d : Document) (parent : NodeId) (tag : String) : Document :=
  d.appendNode parent (.element (asciiLower tag) ∅)

def appendText (d : Document) (parent : NodeId) (s : String) : Document :=
  d.appendNode parent (.text s)

def insertAttribute (d : Document) (node : NodeId) (name value : String) : Document :=
  { d with
    nodes := d.nodes.modify node fun n ↦
      { n with content := n.content.setAttribute name value } }

def insertAttributes (d : Document) (node : NodeId) (pairs : List (String × String)) : Document :=
  pairs.foldl (fun d (name, value) ↦ d.insertAttribute node name value) d

def setBox? (d : Document) (node : NodeId) (box : Option Box) : Document :=
  { d with nodes := d.nodes.modify node fun n ↦ { n with box } }

def setBox (d : Document) (node : NodeId) (box : Box) : Document := d.setBox? node (some box)

def node? (d : Document) (id : NodeId) : Option NodeEntry := d.nodes[id]?

/-- The tag of an element, and nothing for a text or an unknown node. -/
def tag? (d : Document) (id : NodeId) : Option String :=
  match d.node? id with
  | some ⟨.element tag _, _, _, _⟩ => some tag
  | _ => none

def isElement (d : Document) (id : NodeId) : Bool := (d.tag? id).isSome

def attributes (d : Document) (id : NodeId) : OrderedMap String :=
  match d.node? id with
  | some ⟨.element _ attributes, _, _, _⟩ => attributes
  | _ => ∅

def childIds (d : Document) (id : NodeId) : List NodeId :=
  match d.node? id with
  | some n => n.children
  | none => []

def parent? (d : Document) (id : NodeId) : Option NodeId :=
  (d.node? id).bind NodeEntry.parent

def count (d : Document) : Nat :=
  d.nodes.toList.countP fun n ↦ n.content matches .element _ _

/-- The subtree of a node, cut off below `depth` levels. -/
def treeTo (d : Document) : Nat → NodeId → Tree
  | 0, id => .text id ""
  | depth + 1, id =>
    match d.node? id with
    | some ⟨.element tag attributes, _, children, _⟩ =>
      .element id tag attributes (children.map (d.treeTo depth))
    | some ⟨.text s, _, _, _⟩ => .text id s
    | none => .text id ""

/-- The subtree of a node. No path is longer than there are nodes. -/
def tree (d : Document) (id : NodeId) : Tree := d.treeTo d.size id

def textContent (d : Document) (id : NodeId) : String := (d.tree id).textContent

def markup (d : Document) (id : NodeId) : String := (d.tree id).markup

/-- The elements below a node that are reached from it through elements, in document order. -/
def descendants (d : Document) (id : NodeId) : List NodeId :=
  (d.childIds id).flatMap fun child ↦ (d.tree child).elements

/-- Whether two documents agree in every part. An undefined coordinate agrees with nothing, itself
included. -/
def sameAs (d e : Document) : Bool :=
  d.viewport == e.viewport && d.size == e.size &&
    (d.nodes.toList.zip e.nodes.toList).all fun (m, n) ↦
      decide (m.content = n.content) && m.parent == n.parent && m.children == n.children &&
        m.box == n.box

/-- Adds the nodes below `parent`, a node before what stands below it. -/
def importNodes (d : Document) (parent : NodeId) : List SnapshotNode → Document
  | [] => d
  | .text s :: rest => (d.appendText parent s).importNodes parent rest
  | .element tag attributes children box :: rest =>
    let id := d.size
    let d := ((d.appendElement parent tag).insertAttributes id attributes.entries).setBox? id box
    (d.importNodes id children).importNodes parent rest

/-- The document of a snapshot, numbered in document order. -/
def ofSnapshot (s : Snapshot) : Document :=
  (((new s.tag).insertAttributes root s.attributes.entries).setBox? root s.box).importNodes root
    s.children

end Document

end PageOutline
