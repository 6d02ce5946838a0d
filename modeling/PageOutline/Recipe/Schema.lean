import PageOutline.Recipe.Spec

namespace PageOutline

namespace Schema

abbrev Keywords := List (String × Json)

def ofType (name : String) : Keywords := [("type", .string name)]

def aText : Keywords := ofType "string"

def aFlag : Keywords := ofType "boolean"

def orNull (name : String) : Keywords := [("type", .ofStrings [name, "null"])]

def listOf (items : Keywords) : Keywords := ofType "array" ++ [("items", .object items)]

def defined (name : String) : Keywords := [("$ref", .string ("#/$defs/" ++ name))]

def described (description : String) (schema : Keywords) : Keywords :=
  ("description", .string description) :: schema

def withDefault (v : Json) (schema : Keywords) : Keywords := ("default", v) :: schema

def alternatives (keyword : String) (schemas : List Keywords) : Keywords :=
  [(keyword, .array (schemas.map .object))]

def definedOrNull (name : String) : Keywords :=
  alternatives "anyOf" [defined name, ofType "null"]

def record (properties : List (String × Keywords)) : Keywords :=
  ofType "object" ++ [("properties", .object (properties.map fun (k, v) ↦ (k, .object v)))]

def required (names : List String) : Keywords := [("required", .ofStrings names)]

def closed : Keywords := [("additionalProperties", .bool false)]

def choice (name : String) : Keywords := record [(name, aText)] ++ required [name] ++ closed

def oneOfTexts (texts : List String) : Keywords := aText ++ [("enum", .ofStrings texts)]

end Schema

open Schema

def Settings.schema : Keywords :=
  let default : Settings := {}
  let name (description value : String) : Keywords :=
    described description (withDefault (.string value) aText)
  described ("Engine settings: the attribute names written onto live documents and the\n" ++
    "lookup rules for dropdown expansion") (record [
    ("clickable_attribute",
      name "Marks clickable live nodes with their semantic name" default.clickableAttribute),
    ("input_attribute",
      name "Marks text/number inputs with their semantic name" default.inputAttribute),
    ("select_attribute",
      name "Marks selection controls with their semantic name" default.selectAttribute),
    ("meta_name_attribute",
      name "Name of the metadata record attached to a live node" default.metaNameAttribute),
    ("meta_data_attribute",
      name "JSON payload of the metadata record attached to a live node" default.metaDataAttribute),
    ("visible_attribute",
      name "Set on visible interactive nodes of marked snapshots" default.visibleAttribute),
    ("preserved_attributes",
      described "Attributes copied to every output node when present and non-empty"
        (withDefault (.ofStrings default.preservedAttributes) (listOf aText))),
    ("dropdown_label_selector",
      name "Finds the current-value label of a selection control within its parent"
        default.dropdownLabelSelector),
    ("dropdown_option_tag",
      name "Tag of the option elements listed for a selection control" default.dropdownOptionTag)]
    ++ closed)

def PageRule.schema : Keywords :=
  described "Condition deciding whether a catalog entry applies to the current page"
    (alternatives "anyOf" [
      described "Matches on the normalized location path" (record [
        ("path", aText),
        ("tolerates_ref_suffix", described "Also accept `<path>/ref=...` and `<path>ref=...`"
          (withDefault (.bool false) aFlag))] ++ required ["path"]),
      described "Matches when `selector` finds a node, optionally containing `contains`" (record [
        ("selector", aText),
        ("contains", described "Case-insensitive substring required in the found node's text"
          (orNull "string"))] ++ required ["selector"])])

def NameSpec.schema : Keywords :=
  described "Naming mode of a recipe node"
    (alternatives "oneOf" [oneOfTexts ["from_text", "from_position"], choice "literal"])

def TextSpec.schema : Keywords :=
  described "Text source of a recipe node" (alternatives "oneOf" [
    described "Text of the first descendant matching this selector" (choice "selector"),
    described "Name of a registered text extractor (or `attr:<name>`)" (choice "extractor"),
    described "The node's own text" (aText ++ [("const", .string "own")])])

def RecipeSpec.schema : Keywords :=
  let text? : Keywords := orNull "string"
  let off : Keywords := withDefault (.bool false) aFlag
  described "Serializable form of a [`RecipeNode`]" (record [
    ("selector", withDefault (.string "") aText),
    ("tag_name", text?),
    ("text", definedOrNull "TextSpec"),
    ("text_format", text?),
    ("add_text", described "Keep the resolved text on the output node" off),
    ("name", definedOrNull "NameSpec"),
    ("clickable", off),
    ("click_selector", text?),
    ("keep_attributes", withDefault (.array []) (listOf aText)),
    ("class", text?),
    ("id", text?),
    ("computed_attributes", described "Output attribute name → attribute computer name"
      (withDefault (.object []) (ofType "object" ++ [("additionalProperties", .object aText)]))),
    ("metadata", described "Metadata generator name" text?),
    ("children", withDefault (.array []) (listOf (defined "RecipeSpec"))),
    ("direct_child_only", off),
    ("query_from_root", off),
    ("separator_every", orNull "integer" ++ [("format", .string "uint"), ("minimum", .ofNat 0)]),
    ("empty_message", text?)] ++ closed)

def PageSpec.schema : Keywords :=
  described "A match rule and the recipe it selects"
    (record [("match", defined "MatchRule"), ("recipe", defined "RecipeSpec")] ++
      required ["match", "recipe"] ++ closed)

def Schema.dialect : String :=
  String.intercalate "/" ["https:", "", "json-schema.org", "draft", "2020-12", "schema"]

def CatalogFile.schema : Json :=
  let definitions : List (String × Keywords) :=
    [("ExtractorConfig", Settings.schema), ("MatchRule", PageRule.schema),
     ("NameSpec", NameSpec.schema), ("PageSpec", PageSpec.schema),
     ("RecipeSpec", RecipeSpec.schema), ("TextSpec", TextSpec.schema)]
  let keywords : Keywords :=
    [("$schema", .string Schema.dialect), ("title", .string "CatalogFile")] ++
    described "Top-level catalog file" (record [
      ("config", described "Engine settings (attribute names, dropdown lookup)"
        (withDefault (Settings.toJson {}) (defined "ExtractorConfig"))),
      ("pages", described "Page recipes, first match wins"
        (withDefault (.array []) (listOf (defined "PageSpec"))))] ++ closed) ++
    [("$defs", .object (definitions.map fun (k, v) ↦ (k, .object v)))]
  (Json.object keywords).canonical

end PageOutline
