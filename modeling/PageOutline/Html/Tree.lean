import PageOutline.Html.Token

namespace PageOutline.Html

inductive Vocabulary where
  | html
  | svg
  | math
  deriving DecidableEq, Repr, Inhabited

/-- Names are lowered. Attributes stand in the order of the text. -/
inductive Node where
  | element (vocabulary : Vocabulary) (name : String) (attributes : List (String × String))
    (children : List Node)
  | text (s : String)
  | comment (s : String)
  | doctype (d : Doctype)

instance : Inhabited Node := ⟨.text ""⟩

inductive DraftContent where
  | document
  | element (vocabulary : Vocabulary) (name : String) (attributes : List (String × String))
  | text (s : String)
  | comment (s : String)
  | doctype (d : Doctype)
  deriving Inhabited

structure DraftNode where
  content : DraftContent
  parent : Option Nat
  children : List Nat
  deriving Inhabited

structure Draft where
  nodes : Array DraftNode
  deriving Inhabited

namespace Draft

def document : Nat := 0

def empty : Draft := ⟨#[⟨.document, none, []⟩]⟩

def size (d : Draft) : Nat := d.nodes.size

/-- Adds a node that hangs nowhere. Its number is the next one. -/
def create (d : Draft) (content : DraftContent) : Draft := ⟨d.nodes.push ⟨content, none, []⟩⟩

def parent? (d : Draft) (id : Nat) : Option Nat := d.nodes[id]?.bind DraftNode.parent

def children (d : Draft) (id : Nat) : List Nat :=
  match d.nodes[id]? with
  | some n => n.children
  | none => []

def setParent (d : Draft) (id : Nat) (parent : Option Nat) : Draft :=
  ⟨d.nodes.modify id fun n ↦ { n with parent }⟩

def mapChildren (d : Draft) (id : Nat) (f : List Nat → List Nat) : Draft :=
  ⟨d.nodes.modify id fun n ↦ { n with children := f n.children }⟩

/-- Takes a node from its parent. -/
def detach (d : Draft) (id : Nat) : Draft :=
  match d.parent? id with
  | some parent => (d.mapChildren parent (·.filter (· != id))).setParent id none
  | none => d

def append (d : Draft) (parent id : Nat) : Draft :=
  (d.mapChildren parent (· ++ [id])).setParent id (some parent)

def insertInFront (sibling id : Nat) : List Nat → List Nat
  | [] => []
  | n :: ns => if n = sibling then id :: n :: ns else n :: insertInFront sibling id ns

def insertBefore (d : Draft) (sibling id : Nat) : Draft :=
  match d.parent? sibling with
  | some parent => (d.mapChildren parent (insertInFront sibling id)).setParent id (some parent)
  | none => d

def moveChildren (d : Draft) (source target : Nat) : Draft :=
  let moved := d.children source
  let d := (d.mapChildren source fun _ ↦ []).mapChildren target (· ++ moved)
  moved.foldl (fun d id ↦ d.setParent id (some target)) d

def isText (d : Draft) (id : Nat) : Bool :=
  match d.nodes[id]? with
  | some ⟨.text _, _, _⟩ => true
  | _ => false

def growText (d : Draft) (id : Nat) (c : Char) : Draft :=
  ⟨d.nodes.modify id fun n ↦
    match n with
    | ⟨.text s, parent, children⟩ => ⟨.text (s.push c), parent, children⟩
    | n => n⟩

/-- Writes a character behind the children of a node: a text there grows, else one begins. -/
def appendChar (d : Draft) (parent : Nat) (c : Char) : Draft :=
  match (d.children parent).getLast?.filter d.isText with
  | some id => d.growText id c
  | none =>
    let id := d.size
    (d.create (.text (String.singleton c))).append parent id

def before? (sibling : Nat) : List Nat → Option Nat
  | [] => none
  | [_] => none
  | m :: n :: ns => if n = sibling then some m else before? sibling (n :: ns)

/-- Writes a character in front of a node. -/
def insertCharBefore (d : Draft) (sibling : Nat) (c : Char) : Draft :=
  let left := (d.parent? sibling).bind fun parent ↦ before? sibling (d.children parent)
  match left.filter d.isText with
  | some id => d.growText id c
  | none =>
    let id := d.size
    (d.create (.text (String.singleton c))).insertBefore sibling id

def addMissing (d : Draft) (id : Nat) (pairs : List (String × String)) : Draft :=
  ⟨d.nodes.modify id fun n ↦
    match n.content with
    | .element vocabulary name attributes =>
      let missing := pairs.filter fun (k, _) ↦ !attributes.any (·.1 == k)
      { n with content := .element vocabulary name (attributes ++ missing) }
    | _ => n⟩

inductive Place where
  | last (parent : Nat)
  | before (sibling : Nat)

def put (place : Place) (id : Nat) (d : Draft) : Draft :=
  match place with
  | .last parent => d.append parent id
  | .before sibling => d.insertBefore sibling id

def add (place : Place) (content : DraftContent) (d : Draft) : Draft :=
  let id := d.size
  (d.create content).put place id

def addChar (place : Place) (c : Char) (d : Draft) : Draft :=
  match place with
  | .last parent => d.appendChar parent c
  | .before sibling => d.insertCharBefore sibling c

def forest (d : Draft) : Nat → Nat → List Node
  | 0, _ => []
  | depth + 1, id =>
    (d.children id).filterMap fun child ↦
      match (d.nodes[child]?).map DraftNode.content with
      | some (.element vocabulary name attributes) =>
        some (.element vocabulary name attributes (d.forest depth child))
      | some (.text s) => some (.text s)
      | some (.comment s) => some (.comment s)
      | some (.doctype doctype) => some (.doctype doctype)
      | some .document | none => none

/-- The nodes of the document. No path is longer than there are nodes. -/
def toNodes (d : Draft) : List Node := d.forest d.size document

end Draft

end PageOutline.Html
