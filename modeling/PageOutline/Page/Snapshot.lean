import PageOutline.Page.Box
import PageOutline.Text.Ascii

namespace PageOutline

/-- What stands below an element of a snapshot: runs of text, and elements. -/
inductive SnapshotNode where
  | text (s : String)
  | element (tag : String) (attributes : OrderedMap String) (children : List SnapshotNode)
    (box : Option Box)

instance : Inhabited SnapshotNode := ⟨.text ""⟩

structure Snapshot where
  tag : String
  attributes : OrderedMap String
  children : List SnapshotNode
  box : Option Box
  deriving Inhabited

def Snapshot.toNode (s : Snapshot) : SnapshotNode :=
  .element s.tag s.attributes s.children s.box

namespace SnapshotNode

mutual

def count : SnapshotNode → Nat
  | .text _ => 0
  | .element _ _ children _ => 1 + countAll children

def countAll : List SnapshotNode → Nat
  | [] => 0
  | n :: ns => n.count + countAll ns

end

mutual

def texts : SnapshotNode → String
  | .text s => s
  | .element _ _ children _ => textsAll children

def textsAll : List SnapshotNode → String
  | [] => ""
  | n :: ns => n.texts ++ textsAll ns

end

def tag? : SnapshotNode → Option String
  | .element tag _ _ _ => some tag
  | .text _ => none

def ownText? : SnapshotNode → Option String
  | .text s => some s
  | .element _ _ _ _ => none

mutual

/-- A run of text is a JSON string; an element is an object, without its children where it has none
and without its box where it is unknown. -/
def toJson : SnapshotNode → Json
  | .text s => .string s
  | .element tag attributes children box =>
    .object <|
      [("tag_name", .string tag), ("attributes", .ofMap attributes)] ++
      (if children.isEmpty then [] else [("children", .array (toJsonAll children))]) ++
      (box.map fun b ↦ ("bounding_box", b.toJson)).toList

def toJsonAll : List SnapshotNode → List Json
  | [] => []
  | n :: ns => n.toJson :: toJsonAll ns

end

end SnapshotNode

namespace Snapshot

def count (s : Snapshot) : Nat := s.toNode.count

/-- The element's own runs of text, without those of its child elements. -/
def ownText (s : Snapshot) : String :=
  String.join (s.children.filterMap SnapshotNode.ownText?)

def isTag (s : Snapshot) (tag : String) : Bool := Text.eqIgnoringCase s.tag tag

def childTags (s : Snapshot) : List String :=
  s.children.filterMap SnapshotNode.tag?

def toJson (s : Snapshot) : Json := s.toNode.toJson

def fieldNames : List String := ["tag_name", "attributes", "children", "bounding_box"]

def reading : Json.Reading :=
  .members [("tag_name", .whole), ("attributes", .whole), ("children", .whole),
    ("bounding_box", Box.reading)]

def ofFields (child : Json → Except JsonFault SnapshotNode) (surplus : JsonFault)
    (v : Json) : Except JsonFault Snapshot := do
  let fields ← v.fieldsOf ⟨fieldNames, false, surplus⟩
  return ⟨← Json.field fields "tag_name" Json.asString,
    ← Json.fieldOr fields "attributes" ∅ Json.asMap,
    ← Json.fieldOr fields "children" [] (Json.asList child),
    ← Json.fieldOr fields "bounding_box" none (Json.asOption (Box.ofJson surplus))⟩

end Snapshot

/-- Reads a run of text, or an element that nests at most `levels` deep. -/
def SnapshotNode.ofJson : Nat → Json → Except JsonFault SnapshotNode
  | _, .string s => .ok (.text s)
  | 0, _ => .error .malformed
  | levels + 1, v => Snapshot.toNode <$> Snapshot.ofFields (ofJson levels) .misshapen v

namespace Snapshot

def ofJson (v : Json) : Except JsonFault Snapshot :=
  ofFields (SnapshotNode.ofJson Json.maxDepth) .malformed v

def parse (text : String) : Except JsonFault Snapshot := do
  ofJson (← Json.parse text reading)

end Snapshot

end PageOutline
