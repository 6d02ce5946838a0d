import PageOutline.Html.Construction
import PageOutline.Page.Document

namespace PageOutline

/-- Elements that are not rendered, whatever they hold. -/
def hiddenTags : List String := ["script", "style", "noscript", "template"]

mutual

/-- What is rendered of a node. Comments and doctypes are not. -/
def Html.Node.rendered : Html.Node → Option SnapshotNode
  | .element _ name attributes children =>
    if hiddenTags.contains name then none
    else some (.element name (.ofList attributes) (renderedAll children) none)
  | .text s => some (.text s)
  | .comment _ | .doctype _ => none

def renderedAll : List Html.Node → List SnapshotNode
  | [] => []
  | n :: ns => n.rendered.toList ++ renderedAll ns

end

/-- The document element, as a snapshot of what is rendered below it. -/
def renderedRoot : List Html.Node → Snapshot
  | [] => ⟨"html", ∅, [], none⟩
  | .element _ name attributes children :: _ =>
    ⟨name, .ofList attributes, renderedAll children, none⟩
  | _ :: ns => renderedRoot ns

def Document.ofHtml (text : String) : Document :=
  .ofSnapshot (renderedRoot (Html.parse text))

end PageOutline
