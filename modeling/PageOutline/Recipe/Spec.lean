import PageOutline.Recipe.Rule
import PageOutline.Settings

namespace PageOutline

inductive TextSpec where
  | selector (s : String)
  | extractor (name : String)
  | own
  deriving DecidableEq, Repr, Inhabited

inductive NameSpec where
  | literal (name : String)
  | fromText
  | fromPosition
  deriving DecidableEq, Repr, Inhabited

structure SpecFields where
  selector : String := ""
  tagName : Option String := none
  text : Option TextSpec := none
  textFormat : Option String := none
  addText : Bool := false
  name : Option NameSpec := none
  clickable : Bool := false
  clickSelector : Option String := none
  keepAttributes : List String := []
  cssClass : Option String := none
  id : Option String := none
  computedAttributes : OrderedMap String := ∅
  metadata : Option String := none
  directChildOnly : Bool := false
  queryFromRoot : Bool := false
  separatorEvery : Option Nat := none
  emptyMessage : Option String := none
  deriving DecidableEq, Inhabited

inductive RecipeSpec where
  | node (fields : SpecFields) (children : List RecipeSpec)

instance : Inhabited RecipeSpec := ⟨.node {} []⟩

structure PageSpec where
  rule : PageRule
  recipe : RecipeSpec
  deriving Inhabited

structure CatalogFile where
  settings : Settings
  pages : List PageSpec
  deriving Inhabited

def TextSpec.toJson : TextSpec → Json
  | .selector s => .object [("selector", .string s)]
  | .extractor name => .object [("extractor", .string name)]
  | .own => .string "own"

def TextSpec.ofJson : Json → Except JsonFault TextSpec :=
  Json.asChoice fun name content ↦
    match name with
    | "selector" => TextSpec.selector <$> content.asString
    | "extractor" => TextSpec.extractor <$> content.asString
    | "own" => do
      content.asUnit
      return .own
    | _ => .error .misshapen

def NameSpec.toJson : NameSpec → Json
  | .literal name => .object [("literal", .string name)]
  | .fromText => .string "from_text"
  | .fromPosition => .string "from_position"

def NameSpec.ofJson : Json → Except JsonFault NameSpec :=
  Json.asChoice fun name content ↦
    match name with
    | "literal" => NameSpec.literal <$> content.asString
    | "from_text" => do
      content.asUnit
      return .fromText
    | "from_position" => do
      content.asUnit
      return .fromPosition
    | _ => .error .misshapen

namespace RecipeSpec

def fields : RecipeSpec → SpecFields
  | .node f _ => f

def children : RecipeSpec → List RecipeSpec
  | .node _ ss => ss

mutual

def nodes : RecipeSpec → List SpecFields
  | .node f ss => f :: nodesAll ss

def nodesAll : List RecipeSpec → List SpecFields
  | [] => []
  | s :: ss => s.nodes ++ nodesAll ss

end

def member? (name : String) (v : Option Json) : List (String × Json) :=
  (v.map (name, ·)).toList

/-- The members of a recipe in their declared order, without the options that are not given. -/
def members (f : SpecFields) (children : List Json) : List (String × Json) :=
  [("selector", .string f.selector)] ++
  member? "tag_name" (f.tagName.map .string) ++
  member? "text" (f.text.map TextSpec.toJson) ++
  member? "text_format" (f.textFormat.map .string) ++
  [("add_text", .bool f.addText)] ++
  member? "name" (f.name.map NameSpec.toJson) ++
  [("clickable", .bool f.clickable)] ++
  member? "click_selector" (f.clickSelector.map .string) ++
  [("keep_attributes", .ofStrings f.keepAttributes)] ++
  member? "class" (f.cssClass.map .string) ++
  member? "id" (f.id.map .string) ++
  [("computed_attributes", .ofMap f.computedAttributes)] ++
  member? "metadata" (f.metadata.map .string) ++
  [("children", .array children), ("direct_child_only", .bool f.directChildOnly),
   ("query_from_root", .bool f.queryFromRoot)] ++
  member? "separator_every" (f.separatorEvery.map Json.ofNat) ++
  member? "empty_message" (f.emptyMessage.map .string)

mutual

def toJson : RecipeSpec → Json
  | .node f ss => .object (members f (toJsonAll ss))

def toJsonAll : List RecipeSpec → List Json
  | [] => []
  | s :: ss => s.toJson :: toJsonAll ss

end

def fieldNames : List String :=
  ["selector", "tag_name", "text", "text_format", "add_text", "name", "clickable",
   "click_selector", "keep_attributes", "class", "id", "computed_attributes", "metadata",
   "children", "direct_child_only", "query_from_root", "separator_every", "empty_message"]

/-- Reads a recipe that nests at most `levels` deep. A field that is absent has its default. -/
def ofJson : Nat → Json → Except JsonFault RecipeSpec
  | 0, _ => .error .malformed
  | levels + 1, v => do
    let fields ← v.fieldsOf ⟨fieldNames, true, .malformed⟩
    let flag (name : String) := Json.fieldOr fields name false Json.asBool
    let text? (name : String) := Json.fieldOr fields name none (Json.asOption Json.asString)
    return .node
      { selector := ← Json.fieldOr fields "selector" "" Json.asString
        tagName := ← text? "tag_name"
        text := ← Json.fieldOr fields "text" none (Json.asOption TextSpec.ofJson)
        textFormat := ← text? "text_format"
        addText := ← flag "add_text"
        name := ← Json.fieldOr fields "name" none (Json.asOption NameSpec.ofJson)
        clickable := ← flag "clickable"
        clickSelector := ← text? "click_selector"
        keepAttributes := ← Json.fieldOr fields "keep_attributes" [] (Json.asList Json.asString)
        cssClass := ← text? "class"
        id := ← text? "id"
        computedAttributes := ← Json.fieldOr fields "computed_attributes" ∅ Json.asMap
        metadata := ← text? "metadata"
        directChildOnly := ← flag "direct_child_only"
        queryFromRoot := ← flag "query_from_root"
        separatorEvery := ← Json.fieldOr fields "separator_every" none (Json.asOption Json.asNat)
        emptyMessage := ← text? "empty_message" }
      (← Json.fieldOr fields "children" [] (Json.asList (ofJson levels)))

end RecipeSpec

namespace PageSpec

def toJson (p : PageSpec) : Json :=
  .object [("match", p.rule.toJson), ("recipe", p.recipe.toJson)]

def ofJson (v : Json) : Except JsonFault PageSpec := do
  let fields ← v.fieldsOf ⟨["match", "recipe"], true, .malformed⟩
  return ⟨← Json.field fields "match" PageRule.ofJson,
    ← Json.field fields "recipe" (RecipeSpec.ofJson Json.maxDepth)⟩

end PageSpec

namespace CatalogFile

def toJson (c : CatalogFile) : Json :=
  .object [("config", c.settings.toJson), ("pages", .array (c.pages.map PageSpec.toJson))]

def ofJson (v : Json) : Except JsonFault CatalogFile := do
  let fields ← v.fieldsOf ⟨["config", "pages"], true, .malformed⟩
  return ⟨← Json.fieldOr fields "config" {} Settings.ofJson,
    ← Json.fieldOr fields "pages" [] (Json.asList PageSpec.ofJson)⟩

def parse (text : String) : Except JsonFault CatalogFile := do
  ofJson (← Json.parse text .whole)

end CatalogFile

end PageOutline
