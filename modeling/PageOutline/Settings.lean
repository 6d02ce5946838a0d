import PageOutline.Json.Decode
import PageOutline.Json.Parser

namespace PageOutline

structure Settings where
  clickableAttribute : String := "data-clickable-id"
  inputAttribute : String := "data-input-id"
  selectAttribute : String := "data-select-id"
  metaNameAttribute : String := "data-element-meta-name"
  metaDataAttribute : String := "data-element-meta-data"
  visibleAttribute : String := "data-visible"
  /-- Copied from the page to every outline node that has them. -/
  preservedAttributes : List String :=
    ["alt", "title", "type", "value", "role", "aria-label", "aria-hidden", "aria-selected"]
  dropdownLabelSelector : String := ".a-dropdown-prompt"
  dropdownOptionTag : String := "a"
  deriving DecidableEq, Repr, Inhabited

namespace Settings

def fieldNames : List String :=
  ["clickable_attribute", "input_attribute", "select_attribute", "meta_name_attribute",
   "meta_data_attribute", "visible_attribute", "preserved_attributes", "dropdown_label_selector",
   "dropdown_option_tag"]

def toJson (s : Settings) : Json :=
  .object [("clickable_attribute", .string s.clickableAttribute),
    ("input_attribute", .string s.inputAttribute),
    ("select_attribute", .string s.selectAttribute),
    ("meta_name_attribute", .string s.metaNameAttribute),
    ("meta_data_attribute", .string s.metaDataAttribute),
    ("visible_attribute", .string s.visibleAttribute),
    ("preserved_attributes", .ofStrings s.preservedAttributes),
    ("dropdown_label_selector", .string s.dropdownLabelSelector),
    ("dropdown_option_tag", .string s.dropdownOptionTag)]

def ofJson (v : Json) : Except JsonFault Settings := do
  let fields ← v.fieldsOf ⟨fieldNames, true, .malformed⟩
  let text (name absent : String) := Json.fieldOr fields name absent Json.asString
  let default : Settings := {}
  return {
    clickableAttribute := ← text "clickable_attribute" default.clickableAttribute
    inputAttribute := ← text "input_attribute" default.inputAttribute
    selectAttribute := ← text "select_attribute" default.selectAttribute
    metaNameAttribute := ← text "meta_name_attribute" default.metaNameAttribute
    metaDataAttribute := ← text "meta_data_attribute" default.metaDataAttribute
    visibleAttribute := ← text "visible_attribute" default.visibleAttribute
    preservedAttributes := ← Json.fieldOr fields "preserved_attributes" default.preservedAttributes
      (Json.asList Json.asString)
    dropdownLabelSelector := ← text "dropdown_label_selector" default.dropdownLabelSelector
    dropdownOptionTag := ← text "dropdown_option_tag" default.dropdownOptionTag }

def parse (text : String) : Except JsonFault Settings := do
  ofJson (← Json.parse text .whole)

end Settings

end PageOutline
