import PageOutline.Pass.Registry
import PageOutline.Settings
import PageOutline.Outline.Basic
import PageOutline.Text.Blank
import PageOutline.Text.Search

namespace PageOutline

variable {σ : Type}

structure Session (σ : Type) where
  page : σ
  registry : Registry
  deriving Inhabited

/-- A computation on a session. What it has done stays when it fails. -/
abbrev Pass (σ : Type) := ExceptT Failure (StateM (Session σ))

namespace Pass

def onPage {α : Type} (x : Access σ α) : Pass σ α := fun s ↦
  match x s.page with
  | (result, page) => (result, { s with page })

def register (f : Registry → Registry) : Pass σ Unit :=
  modify fun s ↦ { s with registry := f s.registry }

end Pass

/-- Puts a text in the place of the first braces of a template. A template without braces stands for
itself. -/
def applyFormat (template text : String) : String :=
  match Text.replaceFirst ['\x7b', '\x7d'] text.toList template.toList with
  | some cs => String.ofList cs
  | none => template

variable [LivePage σ]

namespace Pass

open LivePage

/-- The answer of an inquiry, or what stands for it where the inquiry fails. -/
def answerOr {α : Type} (default : α) (inquiry : Inquiry α) : Pass σ α := do
  match ← onPage (attempt inquiry.run) with
  | .ok a => return a
  | .error _ => return default

def resolveText (d : Directive) (node : NodeId) : Pass σ String := do
  let raw ← match d.text with
    | .none => pure ""
    | .selector selector => do
      match ← onPage (queryFirst node selector) with
      | some target => onPage (text target)
      | none => pure ""
    | .extractor f => answerOr "" (f node)
    | .own => onPage (text node)
  let text := Text.collapseBlanks raw
  return match d.textFormat with
    | some template => applyFormat template text
    | none => text

def attachMetadata (settings : Settings) (d : Directive) (node : NodeId) : Pass σ Unit := do
  let some f := d.metadata | return
  let some record ← answerOr none (f node) | return
  onPage (setAttribute node settings.metaNameAttribute record.name)
  onPage (setAttribute node settings.metaDataAttribute record.payload.canonical.compress)

/-- Tags a node as clickable under a name, and registers the name. -/
def tagClickable (settings : Settings) (recipe : Recipe) (name : String) (node : NodeId) :
    Pass σ Unit := do
  onPage (setAttribute node settings.clickableAttribute name)
  register (·.addClickable name recipe)

def tagInput (settings : Settings) (recipe : Recipe) (name : String) (node : NodeId) :
    Pass σ Unit := do
  onPage (setAttribute node settings.inputAttribute name)
  register (·.addInput name recipe)

/-- Tags the click target of a node. One that is missing is not tagged. -/
def tagClickTarget (settings : Settings) (recipe : Recipe) (name : String) (node : NodeId) :
    Pass σ Unit := do
  let target ← match recipe.directive.clickSelector with
    | some selector => onPage (queryFirst node selector)
    | none => pure (some node)
  match target with
  | some target => tagClickable settings recipe name target
  | none => return

/-- Copies the attributes in the list that the node has and that are not empty. -/
def copyAttributes (node : NodeId) : List String → Outline → Pass σ Outline
  | [], output => return output
  | name :: names, output => do
    let kept := (← onPage (attr node name)).filter fun value ↦ !value.isEmpty
    copyAttributes node names ((kept.map (output.setAttribute name)).getD output)

def computeAttributes (node : NodeId) :
    List (String × AttributeFunction) → Outline → Pass σ Outline
  | [], output => return output
  | (name, f) :: rest, output => do
    let computed ← answerOr none (f node)
    computeAttributes node rest ((computed.map (output.setAttribute name)).getD output)

/-- Fills the attributes of an outline node: those that are copied, then the class and the id of the
recipe, then those that are computed. -/
def composeAttributes (settings : Settings) (d : Directive) (node : NodeId) (output : Outline) :
    Pass σ Outline := do
  let output ← copyAttributes node (settings.preservedAttributes ++ d.keepAttributes) output
  let output := (d.classOverride.map (output.setAttribute "class")).getD output
  let output := (d.idOverride.map (output.setAttribute "id")).getD output
  computeAttributes node d.computers.entries output

/-- Tells the state of an input, and tags it by its type. -/
def describeInput (settings : Settings) (recipe : Recipe) (name : Option String) (node : NodeId)
    (output : Outline) : Pass σ Outline := do
  let type := ((← onPage (attr node "type")).map Text.asciiLower).getD "text"
  if type = "text" ∨ type = "number" then
    let output := ((← onPage (value node)).map (output.setAttribute "value")).getD output
    match name with
    | some name => tagInput settings recipe name node
    | none => pure ()
    return output
  else if type = "radio" then
    let output := output.setAttribute "checked" (toString (← onPage (checked node)))
    match name with
    | some name => tagClickable settings recipe name node
    | none => pure ()
    return output
  else if type = "checkbox" then
    return output.setAttribute "checked" (toString (← onPage (checked node)))
  else return output

end Pass

end PageOutline
