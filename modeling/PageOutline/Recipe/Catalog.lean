import PageOutline.Recipe.Functions
import PageOutline.Recipe.Spec

namespace PageOutline

def TextSpec.build (table : FunctionTable) : TextSpec → Except Failure TextSource
  | .selector s => .ok (.selector s)
  | .extractor name => TextSource.extractor <$> table.textExtractor name
  | .own => .ok .own

def NameSpec.build : NameSpec → NameMode
  | .literal name => .literal name
  | .fromText => .fromText
  | .fromPosition => .fromPosition

def SpecFields.build (table : FunctionTable) (f : SpecFields) : Except Failure Directive := do
  if Text.isAllBlank f.selector then throw (.config .emptySelector)
  if f.separatorEvery = some 0 then throw (.config (.zeroSeparator f.selector))
  let text ← match f.text with
    | none => pure TextSource.none
    | some t => t.build table
  let computers ← f.computedAttributes.entries.mapM fun (name, function) ↦ do
    return (name, ← table.attributeComputer function)
  let metadata ← match f.metadata with
    | none => pure none
    | some name => some <$> table.metadataGenerator name
  return {
    selector := f.selector
    tagName := f.tagName
    text
    textFormat := f.textFormat
    attachText := f.addText
    name := (f.name.map NameSpec.build).getD .none
    clickable := f.clickable
    clickSelector := f.clickSelector
    keepAttributes := f.keepAttributes
    classOverride := f.cssClass
    idOverride := f.id
    computers := .ofList computers
    metadata
    directChildOnly := f.directChildOnly
    queryFromRoot := f.queryFromRoot
    separatorEvery := f.separatorEvery
    emptyPlaceholder := f.emptyMessage }

mutual

/-- The recipe that a file describes: its own fields are checked before its children. -/
def RecipeSpec.build (table : FunctionTable) : RecipeSpec → Except Failure Recipe
  | .node f ss => do
    let directive ← f.build table
    return .node directive (← buildAll table ss)

def buildAll (table : FunctionTable) : List RecipeSpec → Except Failure (List Recipe)
  | [] => return []
  | s :: ss => do
    let recipe ← s.build table
    return recipe :: (← buildAll table ss)

end

structure CatalogEntry where
  rule : PageRule
  recipe : Recipe
  deriving Inhabited

/-- Entries in the order in which their rules are tried. -/
structure Catalog where
  entries : List CatalogEntry
  deriving Inhabited

namespace Catalog

def size (c : Catalog) : Nat := c.entries.length

/-- The recipe of the first entry whose rule holds. Rules that cannot be evaluated do not hold. -/
def selectAmong {σ : Type} [LivePage σ] (location : String) :
    List CatalogEntry → Access σ Recipe
  | [] => throw (.noMatchingRecipe location)
  | e :: es => do
    match ← attempt (e.rule.holds location) with
    | .ok true => return e.recipe
    | .ok false | .error _ => selectAmong location es

def select {σ : Type} [LivePage σ] (c : Catalog) (path : String) : Access σ Recipe :=
  selectAmong (normalizePath path) c.entries

end Catalog

/-- Builds the recipes of a file. The first fault in the order of the pages is reported. -/
def CatalogFile.build (table : FunctionTable) (file : CatalogFile) : Except Failure Catalog := do
  let entries ← file.pages.mapM fun page ↦ do
    return CatalogEntry.mk page.rule (← page.recipe.build table)
  return ⟨entries⟩

end PageOutline
