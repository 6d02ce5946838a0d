import PageOutline.Proofs.Parallel

namespace PageOutline

/-- The outline of a node as far as its recipe, its text and its name make it. -/
def Directive.head (d : Directive) (liveTag text : String) (name : Option String) : Outline :=
  let output := Outline.ofTag (d.tagName.getD liveTag)
  let output := if d.attachText && !text.isEmpty then output.withText text else output
  (name.map (output.setAttribute "name")).getD output

namespace Pass

open LivePage

variable {σ : Type} [LivePage σ]

def tagIfClickable (settings : Settings) (recipe : Recipe) (name : Option String) (node : NodeId) :
    Pass σ Unit :=
  if recipe.directive.clickable then
    match name with
    | some name => tagClickTarget settings recipe name node
    | none => throw (.unnamedClickable recipe.directive.selector node)
  else pure ()

def describeControl (settings : Settings) (recipe : Recipe) (liveTag : String)
    (name : Option String) (node : NodeId) (output : Outline) : Pass σ Outline :=
  if liveTag = "input" then describeInput settings recipe name node output
  else if liveTag = "select" then
    match name with
    | some name => expandDropdown settings recipe name node output
    | none => pure output
  else pure output

/-- What a child recipe matches, seen from a node. -/
def findMatches (recipe : Recipe) (node : NodeId) : Pass σ (List NodeId) := do
  let context ← if recipe.directive.queryFromRoot then onPage root else pure node
  onPage (query context recipe.directive.selector recipe.directive.directChildOnly)

theorem describeControl_bind {α : Type} (settings : Settings) (recipe : Recipe) (liveTag : String)
    (name : Option String) (node : NodeId) (output : Outline) (f : Outline → Pass σ α) :
    describeControl settings recipe liveTag name node output >>= f =
      if liveTag = "input" then describeInput settings recipe name node output >>= f
      else if liveTag = "select" then
        match name with
        | some name => expandDropdown settings recipe name node output >>= f
        | none => pure output >>= f
      else pure output >>= f := by
  unfold describeControl
  split
  · rfl
  · split
    · cases name <;> rfl
    · rfl

theorem enter_eq (settings : Settings) (recipe : Recipe) (node : NodeId) (parent : String)
    (index : Nat) : (enter settings recipe node parent index : Pass σ (Outline × String)) =
      (do
        let liveTag ← onPage (tag node)
        let text ← resolveText recipe.directive node
        let naming := recipe.directive.name.resolve parent text index
        attachMetadata settings recipe.directive node
        tagIfClickable settings recipe naming.usable? node
        let output ← composeAttributes settings recipe.directive node
          (recipe.directive.head liveTag text naming.usable?)
        let output ← describeControl settings recipe liveTag naming.usable? node output
        return (output, naming.childPrefix)) := by
  unfold enter
  refine bind_congr fun liveTag ↦ bind_congr fun text ↦ bind_congr fun _ ↦ ?_
  simp only [describeControl_bind]
  unfold tagIfClickable
  cases recipe.directive.clickable with
  | false => rfl
  | true => cases (recipe.directive.name.resolve parent text index).usable? <;> rfl

theorem processChildren_nil (settings : Settings) (every : Option Nat) (node : NodeId)
    (childPrefix : String) (output : Outline) :
    (processChildren settings every node childPrefix [] output : Pass σ Outline) =
      pure output := by
  rw [processChildren]

theorem processChildren_cons (settings : Settings) (every : Option Nat) (node : NodeId)
    (childPrefix : String) (recipe : Recipe) (recipes : List Recipe) (output : Outline) :
    (processChildren settings every node childPrefix (recipe :: recipes) output :
      Pass σ Outline) =
      (do
        let found ← findMatches recipe node
        let output ← addMatches (fun child i ↦ process settings recipe child childPrefix i) every
          found 0 output
        processChildren settings every node childPrefix recipes output) := by
  rw [processChildren, findMatches]
  cases recipe.directive.queryFromRoot with
  | false => rfl
  | true => exact (bind_assoc (onPage root) _ _).symm

end Pass

namespace Engine

open Pass LivePage

variable {σ : Type} [LivePage σ]

/-- What a pass does once its recipe is known. -/
def follow (settings : Settings) (recipe : Recipe) : Pass σ Outline := do
  let root ← onPage root
  let start := (← onPage (queryFirst root recipe.selector)).getD root
  process settings recipe start "" 0

theorem pass_eq (catalog : Catalog) (settings : Settings) (path : String) :
    (pass catalog settings path : Pass σ Outline) =
      onPage (catalog.select path) >>= follow settings := rfl

end Engine

end PageOutline
