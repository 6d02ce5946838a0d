import PageOutline.Pass.Access
import PageOutline.Pass.Name
import PageOutline.Css.Quoted

namespace PageOutline.Pass

open LivePage

variable {σ : Type} [LivePage σ]

def labelName (name : String) : String := joinName name "open_drop_down_list"

def expandLabel (settings : Settings) (recipe : Recipe) (name : String) (node : NodeId)
    (output : Outline) : Pass σ Outline := do
  let label ← match ← onPage (parent node) with
    | some parent => onPage (queryFirst parent settings.dropdownLabelSelector)
    | none => pure none
  match label with
  | none => return output
  | some label =>
    let child := ((Outline.ofTag (← onPage (tag label))).withText
      (Text.collapseBlanks (← onPage (text label)))).setAttribute "name" (labelName name)
    tagClickable settings recipe (labelName name) label
    return output.push child

/-- The options of the control with the given id. -/
def optionSelector (settings : Settings) (id : String) : String :=
  settings.dropdownOptionTag ++ "[id^=" ++ Css.quote id ++ "]"

def expandOption (settings : Settings) (recipe : Recipe) (name : String) (node : NodeId)
    (output : Outline) : Pass σ Outline := do
  let text := Text.collapseBlanks (← onPage (text node))
  let optionName := name ++ "." ++ text
  let value := (← onPage (attr node "value")).getD text
  let selected := (← onPage (attr node "aria-selected")) == some "true"
  let child := ((((Outline.ofTag "option").withText text).setAttribute "value" value).setAttribute
    "name" optionName).setAttribute "selected" (toString selected)
  tagClickable settings recipe optionName node
  return output.push child

def expandOptions (settings : Settings) (recipe : Recipe) (name : String) (control : NodeId) :
    List NodeId → Outline → Pass σ Outline
  | [], output => return output
  | node :: nodes, output => do
    let output ← if node = control then pure output
      else expandOption settings recipe name node output
    expandOptions settings recipe name control nodes output

/-- Tags a dropdown and adds its label and its options. One without an id has no options. -/
def expandDropdown (settings : Settings) (recipe : Recipe) (name : String) (node : NodeId)
    (output : Outline) : Pass σ Outline := do
  onPage (setAttribute node settings.selectAttribute name)
  let output ← expandLabel settings recipe name node output
  match (← onPage (attr node "id")).filter fun id ↦ !id.isEmpty with
  | none => return output
  | some id =>
    let options ← onPage (do query (← root) (optionSelector settings id) false)
    expandOptions settings recipe name node options output

end PageOutline.Pass
