import PageOutline.Page.Live
import PageOutline.Settings

namespace PageOutline

abbrev PageMeta := OrderedMap (List Json)

def addPayload (found : PageMeta) (name : String) (payload : Json) : PageMeta :=
  found.insert name ((found.get? name).getD [] ++ [payload])

/-- The record on a node, unless its payload cannot be read. A node without payload has the empty
text for one. -/
def recordOn {σ : Type} [LivePage σ] (settings : Settings) (node : NodeId) :
    Access σ (Option (String × Json)) := do
  match ← LivePage.attr node settings.metaNameAttribute with
  | none => return none
  | some name =>
    let raw := (← LivePage.attr node settings.metaDataAttribute).getD ""
    match Json.parse raw .whole with
    | .ok payload => return some (name, payload.canonical)
    | .error _ => return none

def collectFrom {σ : Type} [LivePage σ] (settings : Settings) :
    List NodeId → PageMeta → Access σ PageMeta
  | [], found => return found
  | node :: nodes, found => do
    match ← recordOn settings node with
    | some (name, payload) => collectFrom settings nodes (addPayload found name payload)
    | none => collectFrom settings nodes found

/-- All records below the root, grouped by name in document order. -/
def collectMeta {σ : Type} [LivePage σ] (settings : Settings) : Access σ PageMeta := do
  let selector := "[" ++ settings.metaNameAttribute ++ "]"
  collectFrom settings (← LivePage.query (← LivePage.root) selector false) ∅

end PageOutline
