import PageOutline.Json.Decode
import PageOutline.Json.Parser

namespace PageOutline

structure Box where
  x : Float
  y : Float
  width : Float
  height : Float
  deriving BEq, Repr, Inhabited

namespace Box

def right (b : Box) : Float := b.x + b.width

def bottom (b : Box) : Float := b.y + b.height

/-- Whether `inner` lies within `outer`, edges included. A box with an undefined edge lies within
none. -/
def contains (outer inner : Box) : Bool :=
  inner.x ≥ outer.x && inner.y ≥ outer.y && inner.right ≤ outer.right &&
    inner.bottom ≤ outer.bottom

def defaultViewport : Box := ⟨0, 0, 1280, 720⟩

def toJson (b : Box) : Json :=
  .object [("x", .number (.float b.x)), ("y", .number (.float b.y)),
    ("width", .number (.float b.width)), ("height", .number (.float b.height))]

def fieldNames : List String := ["x", "y", "width", "height"]

def reading : Json.Reading := .members (fieldNames.map (·, .whole))

/-- Reads a box. `surplus` is the fault of too many numbers in a list. -/
def ofJson (surplus : JsonFault) (v : Json) : Except JsonFault Box := do
  let fields ← v.fieldsOf ⟨fieldNames, false, surplus⟩
  return ⟨← Json.field fields "x" Json.asFloat, ← Json.field fields "y" Json.asFloat,
    ← Json.field fields "width" Json.asFloat, ← Json.field fields "height" Json.asFloat⟩

end Box

end PageOutline
