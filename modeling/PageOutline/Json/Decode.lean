import PageOutline.Json.Value
import PageOutline.Decimal.Layout

namespace PageOutline.Json

variable {α : Type}

def asString : Json → Except JsonFault String
  | .string s => .ok s
  | _ => .error .misshapen

def asBool : Json → Except JsonFault Bool
  | .bool b => .ok b
  | _ => .error .misshapen

def asNat : Json → Except JsonFault Nat
  | .number (.int (.ofNat n)) => .ok n
  | _ => .error .misshapen

/-- Integers count as numbers, and are rounded to the nearest double. -/
def asFloat : Json → Except JsonFault Float
  | .number (.int n) =>
    let x := Decimal.ofNat n.natAbs
    .ok (if n < 0 then -x else x)
  | .number (.float x) => .ok x
  | _ => .error .misshapen

def asUnit : Json → Except JsonFault Unit
  | .null => .ok ()
  | _ => .error .misshapen

def asOption (f : Json → Except JsonFault α) : Json → Except JsonFault (Option α)
  | .null => .ok none
  | v => some <$> f v

def asList (f : Json → Except JsonFault α) : Json → Except JsonFault (List α)
  | .array items => items.mapM f
  | _ => .error .misshapen

/-- An object of texts. A repeated name keeps its first place and its last value. -/
def asMap : Json → Except JsonFault (OrderedMap String)
  | .object members => do
    let pairs ← members.mapM fun (k, v) ↦ do return (k, ← v.asString)
    return .ofList pairs
  | _ => .error .misshapen

structure RecordForm where
  names : List String
  /-- Whether a name outside `names` is a fault. -/
  closed : Bool
  /-- The fault of an array with more items than there are fields. -/
  surplus : JsonFault

def fieldsOf (form : RecordForm) : Json → Except JsonFault (List (String × Json))
  | .object members =>
    let known := members.filter fun m ↦ form.names.contains m.1
    if form.closed && known.length ≠ members.length then .error .misshapen
    else if form.names.any fun name ↦ 1 < known.countP (·.1 == name) then .error .misshapen
    else .ok known
  | .array items =>
    if form.names.length < items.length then .error form.surplus
    else .ok (form.names.zip items)
  | _ => .error .misshapen

def field (fields : List (String × Json)) (name : String) (f : Json → Except JsonFault α) :
    Except JsonFault α :=
  match fields.lookup name with
  | some v => f v
  | none => .error .misshapen

def fieldOr (fields : List (String × Json)) (name : String) (absent : α)
    (f : Json → Except JsonFault α) : Except JsonFault α :=
  match fields.lookup name with
  | some v => f v
  | none => .ok absent

/-- A choice among named forms: one name as a text, or an object whose only member has the name and
the content of the chosen form. Other values are no JSON for a choice at all. -/
def asChoice (f : String → Json → Except JsonFault α) : Json → Except JsonFault α
  | .string name => f name .null
  | .object [(name, content)] => f name content
  | _ => .error .malformed

end PageOutline.Json
