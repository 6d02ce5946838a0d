import PageOutline.Pass.Dropdown

namespace PageOutline.Pass

open LivePage

variable {σ : Type} [LivePage σ]

/-- How many separators follow the child at the given place. -/
def separatorsAfter (every : Option Nat) (index : Nat) : Nat :=
  match every with
  | none => 0
  | some 0 => 1
  | some n => if index % n = 0 then 2 else 1

def pushSeparators (output : Outline) : Nat → Outline
  | 0 => output
  | n + 1 => pushSeparators output.pushSeparator n

def addMatches (step : NodeId → Nat → Pass σ Outline) (every : Option Nat) :
    List NodeId → Nat → Outline → Pass σ Outline
  | [], _, output => return output
  | node :: nodes, index, output => do
    let child ← step node index
    addMatches step every nodes (index + 1)
      (pushSeparators (output.push child) (separatorsAfter every index))

/-- The outline of a node before its children: text, name, metadata, attributes and the state of a
control, with the prefix for the names below it. -/
def enter (settings : Settings) (recipe : Recipe) (node : NodeId) (parent : String)
    (index : Nat) : Pass σ (Outline × String) := do
  let d := recipe.directive
  let liveTag ← onPage (tag node)
  let text ← resolveText d node
  let output := Outline.ofTag (d.tagName.getD liveTag)
  let output := if d.attachText && !text.isEmpty then output.withText text else output
  let naming := d.name.resolve parent text index
  let output := (naming.usable?.map (output.setAttribute "name")).getD output
  attachMetadata settings d node
  if d.clickable then
    match naming.usable? with
    | some name => tagClickTarget settings recipe name node
    | none => throw (.unnamedClickable d.selector node)
  let output ← composeAttributes settings d node output
  let output ← if liveTag = "input" then
      describeInput settings recipe naming.usable? node output
    else if liveTag = "select" then
      match naming.usable? with
      | some name => expandDropdown settings recipe name node output
      | none => pure output
    else pure output
  return (output, naming.childPrefix)

/-- A node that ends up without children has the placeholder of its recipe as its text. -/
def finish (d : Directive) (output : Outline) : Outline :=
  match output.children, d.emptyPlaceholder with
  | [], some placeholder => output.withText placeholder
  | _, _ => output

mutual

def process (settings : Settings) : Recipe → NodeId → String → Nat → Pass σ Outline
  | .node d children, node, parent, index => do
    let (output, childPrefix) ← enter settings (.node d children) node parent index
    return finish d (← processChildren settings d.separatorEvery node childPrefix children output)

/-- Adds what each child recipe finds below a node. -/
def processChildren (settings : Settings) (every : Option Nat) (node : NodeId)
    (childPrefix : String) : List Recipe → Outline → Pass σ Outline
  | [], output => return output
  | recipe :: recipes, output => do
    let d := recipe.directive
    let context ← if d.queryFromRoot then onPage root else pure node
    let found ← onPage (query context d.selector d.directChildOnly)
    let output ← addMatches (fun child i ↦ process settings recipe child childPrefix i) every
      found 0 output
    processChildren settings every node childPrefix recipes output

end

end PageOutline.Pass
