import PageOutline.Page.Live
import PageOutline.Settings

namespace PageOutline

def interactiveSelector : String :=
  "a, button, [onclick], input[type=\"button\"], input[type=\"submit\"]"

/-- Whether a node has a box that lies within the viewport. -/
def Document.isVisible (d : Document) (viewport : Box) (node : NodeId) : Bool :=
  ((d.node? node).bind NodeEntry.box).any viewport.contains

def Document.markVisible (d : Document) (viewport : Box) (name : String) :
    Except Failure Document := do
  let found ← d.query Document.root interactiveSelector false
  return (found.filter (d.isVisible viewport)).foldl
    (fun d node ↦ d.insertAttribute node name "true") d

/-- The markup of a copy of the page on which the visible interactive elements are marked. -/
def markVisible {σ : Type} [LivePage σ] (settings : Settings) : Access σ String := do
  let viewport ← LivePage.answer .viewport
  let copy ← LivePage.answer .document
  let marked ← copy.markVisible viewport settings.visibleAttribute
  return marked.markup Document.root

end PageOutline
