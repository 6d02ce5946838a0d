import PageOutline.Page.Live
import PageOutline.Text.Lowercase
import PageOutline.Text.Search
import PageOutline.Json.Decode
import PageOutline.Json.Parser

namespace PageOutline

inductive PageRule where
  /-- The path is `path`, or with `allowRef` goes on with a `ref=` suffix. -/
  | path (path : String) (allowRef : Bool)
  /-- Some element matches, and the first one has the text. -/
  | text (selector : String) (contains : Option String)
  deriving DecidableEq, Repr, Inhabited

open Text (lowercase occursIn)

/-- Strips the slashes at the end of a path, unless it is one slash. -/
def normalizePath (path : String) : String :=
  if path = "/" then path
  else String.ofList (path.toList.reverse.dropWhile (· == '/')).reverse

def containsLowered (text needle : String) : Bool :=
  occursIn (lowercase needle).toList (lowercase text).toList

/-- Whether a path goes on behind `path` as references do. -/
def hasRefSuffix (path location : String) : Bool :=
  (path ++ "/ref=").toList.isPrefixOf location.toList ||
    (path ++ "ref=").toList.isPrefixOf location.toList

namespace PageRule

def holds {σ : Type} [LivePage σ] (rule : PageRule) (location : String) : Access σ Bool :=
  match rule with
  | .path expected allowRef =>
    return location = expected || (allowRef && hasRefSuffix expected location)
  | .text selector contains => do
    match ← LivePage.queryFirst (← LivePage.root) selector with
    | none => return false
    | some found =>
      match contains with
      | none => return true
      | some needle => return containsLowered (← LivePage.text found) needle

def toJson : PageRule → Json
  | .path expected allowRef =>
    .object [("path", .string expected), ("tolerates_ref_suffix", .bool allowRef)]
  | .text selector contains =>
    .object (("selector", .string selector) ::
      (contains.map fun s ↦ ("contains", Json.string s)).toList)

def formFields (names : List String) : Json → Except JsonFault (List (String × Json))
  | .object members => (Json.object members).fieldsOf ⟨names, false, .misshapen⟩
  | _ => .error .misshapen

def pathOfJson (v : Json) : Except JsonFault PageRule := do
  let fields ← formFields ["path", "tolerates_ref_suffix"] v
  return .path (← Json.field fields "path" Json.asString)
    (← Json.fieldOr fields "tolerates_ref_suffix" false Json.asBool)

def textOfJson (v : Json) : Except JsonFault PageRule := do
  let fields ← formFields ["selector", "contains"] v
  return .text (← Json.field fields "selector" Json.asString)
    (← Json.fieldOr fields "contains" none (Json.asOption Json.asString))

/-- A rule by path where the fields fit, else one by text. -/
def ofJson (v : Json) : Except JsonFault PageRule :=
  match pathOfJson v, textOfJson v with
  | .ok rule, _ => .ok rule
  | .error _, .ok rule => .ok rule
  | .error _, .error _ => .error .misshapen

def parse (text : String) : Except JsonFault PageRule := do
  ofJson (← Json.parse text .whole)

end PageRule

end PageOutline
