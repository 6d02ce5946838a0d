import PageOutline.OrderedMap

namespace PageOutline

/-- A number is an integer from `-2 ^ 63` to `2 ^ 64 - 1`, or a double. -/
inductive JsonNumber where
  | int (n : Int)
  | float (x : Float)
  deriving BEq, Repr, Inhabited

inductive Json where
  | null
  | bool (b : Bool)
  | number (n : JsonNumber)
  | string (s : String)
  | array (items : List Json)
  | object (members : List (String × Json))
  deriving BEq, Repr, Inhabited

inductive JsonFault where
  /-- The text is no JSON. -/
  | malformed
  /-- The value has the wrong shape. -/
  | misshapen
  /-- The text ends too early. -/
  | unfinished
  deriving DecidableEq, Repr, Inhabited

namespace Json

mutual

/-- Sorts the members of every object by name, and keeps the last of repeated names. -/
def canonical : Json → Json
  | .array items => .array (canonicalItems items)
  | .object members => .object (sortEntries (canonicalMembers members))
  | v => v

def canonicalItems : List Json → List Json
  | [] => []
  | v :: vs => v.canonical :: canonicalItems vs

def canonicalMembers : List (String × Json) → List (String × Json)
  | [] => []
  | (k, v) :: ms => (k, v.canonical) :: canonicalMembers ms

end

def ofStrings (items : List String) : Json := .array (items.map .string)

def ofOption {α : Type} (f : α → Json) : Option α → Json
  | none => .null
  | some a => f a

def ofNat (n : Nat) : Json := .number (.int n)

def ofMap (m : OrderedMap String) : Json :=
  .object (m.entries.map fun (k, v) ↦ (k, .string v))

end Json

end PageOutline
