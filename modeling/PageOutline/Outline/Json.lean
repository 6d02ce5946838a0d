import PageOutline.Outline.Basic
import PageOutline.Json.Decode
import PageOutline.Json.Parser
import PageOutline.Json.Printer

namespace PageOutline

def outlineMembers (front : List (String × Json)) (tag : String) (attributes : OrderedMap String)
    (text : Option String) (children : List Json) : List (String × Json) :=
  front ++ [("tag_name", .string tag), ("attributes", .ofMap attributes)] ++
    (text.map fun s ↦ ("text", Json.string s)).toList ++
    (if children.isEmpty then [] else [("children", .array children)])

namespace OutlineNode

mutual

def toJson : OutlineNode → Json
  | .element tag attributes text children =>
    .object (outlineMembers [("kind", .string "element")] tag attributes text
      (toJsonAll children))
  | .separator => .object [("kind", .string "separator")]

def toJsonAll : List OutlineNode → List Json
  | [] => []
  | n :: ns => n.toJson :: toJsonAll ns

end

end OutlineNode

namespace Outline

def toJson (o : Outline) : Json :=
  .object (outlineMembers [] o.tag o.attributes o.text (OutlineNode.toJsonAll o.children))

def toText (o : Outline) : String := o.toJson.pretty

def fieldNames : List String := ["tag_name", "attributes", "text", "children"]

def reading : Json.Reading := .members (fieldNames.map (·, .whole))

def ofFields (child : Json → Except JsonFault OutlineNode) (surplus : JsonFault)
    (v : Json) : Except JsonFault Outline := do
  let fields ← v.fieldsOf ⟨fieldNames, false, surplus⟩
  return ⟨← Json.field fields "tag_name" Json.asString,
    ← Json.fieldOr fields "attributes" ∅ Json.asMap,
    ← Json.fieldOr fields "text" none (Json.asOption Json.asString),
    ← Json.fieldOr fields "children" [] (Json.asList child)⟩

end Outline

namespace OutlineNode

/-- The kind of a child. Below the first level it may also be given by its number. -/
def kindOf (numbered : Bool) : Json → Except JsonFault Bool
  | .string "element" => .ok true
  | .string "separator" => .ok false
  | .number (.int 0) => if numbered then .ok true else .error .misshapen
  | .number (.int 1) => if numbered then .ok false else .error .misshapen
  | _ => .error .misshapen

/-- The kind of a child, and the child without it. A list gives the kind first. -/
def splitKind (numbered : Bool) : Json → Except JsonFault (Bool × Json)
  | .object members =>
    match members.filter (·.1 == "kind") with
    | [(_, kind)] => do return (← kindOf numbered kind, .object (members.filter (·.1 != "kind")))
    | _ => .error .misshapen
  | .array (kind :: items) => do return (← kindOf numbered kind, .array items)
  | _ => .error .misshapen

/-- Reads a child that nests at most `levels` deep. A separator has no fields, and passes over
members. -/
def ofJson (numbered : Bool) : Nat → Json → Except JsonFault OutlineNode
  | 0, _ => .error .malformed
  | levels + 1, v => do
    let (isElement, fields) ← splitKind numbered v
    if isElement then
      Outline.toNode <$> Outline.ofFields (ofJson true levels) .misshapen fields
    else
      match fields with
      | .array (_ :: _) => throw .misshapen
      | _ => return .separator

end OutlineNode

namespace Outline

def ofJson (v : Json) : Except JsonFault Outline :=
  ofFields (OutlineNode.ofJson false Json.maxDepth) .malformed v

def parse (text : String) : Except JsonFault Outline := do
  ofJson (← Json.parse text reading)

end Outline

end PageOutline
