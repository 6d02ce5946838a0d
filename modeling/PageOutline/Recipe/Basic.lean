import PageOutline.Page.Live
import PageOutline.Text.Described

namespace PageOutline

structure Record where
  name : String
  payload : Json
  deriving Inhabited

/-- Functions only ask the page; one that fails tells nothing. -/
abbrev TextFunction := NodeId → Inquiry String

abbrev AttributeFunction := NodeId → Inquiry (Option String)

abbrev MetadataFunction := NodeId → Inquiry (Option Record)

inductive TextSource where
  | none
  /-- The text of the first element below the node that matches. -/
  | selector (s : String)
  | extractor (f : TextFunction)
  /-- The text of the node itself. -/
  | own

/-- How a node is named below its parent's name. -/
inductive NameMode where
  | none
  | literal (name : String)
  | fromText
  /-- By the place of the node among the matches of its recipe. -/
  | fromPosition
  deriving DecidableEq, Repr, Inhabited

/-- What a recipe says about the elements it matches, apart from what stands below them. -/
structure Directive where
  selector : String
  /-- The tag in the outline, if not that of the element. -/
  tagName : Option String
  text : TextSource
  /-- The text takes the place of the first braces. -/
  textFormat : Option String
  attachText : Bool
  name : NameMode
  clickable : Bool
  /-- The element below the node that is clicked in its place. -/
  clickSelector : Option String
  keepAttributes : List String
  classOverride : Option String
  idOverride : Option String
  computers : OrderedMap AttributeFunction
  metadata : Option MetadataFunction
  directChildOnly : Bool
  queryFromRoot : Bool
  /-- How often an extra separator follows a child. -/
  separatorEvery : Option Nat
  /-- The text of a node that ends up without children. -/
  emptyPlaceholder : Option String

inductive Recipe where
  | node (directive : Directive) (children : List Recipe)

def Directive.ofSelector (selector : String) : Directive where
  selector
  tagName := none
  text := .none
  textFormat := none
  attachText := false
  name := .none
  clickable := false
  clickSelector := none
  keepAttributes := []
  classOverride := none
  idOverride := none
  computers := ∅
  metadata := none
  directChildOnly := false
  queryFromRoot := false
  separatorEvery := none
  emptyPlaceholder := none

instance : Inhabited Directive := ⟨.ofSelector ""⟩
instance : Inhabited Recipe := ⟨.node default []⟩

namespace Recipe

def directive : Recipe → Directive
  | .node d _ => d

def children : Recipe → List Recipe
  | .node _ rs => rs

def selector (r : Recipe) : String := r.directive.selector

def ofSelector (selector : String) : Recipe := .node (.ofSelector selector) []

def modify (r : Recipe) (f : Directive → Directive) : Recipe := .node (f r.directive) r.children

def addChild (r : Recipe) (child : Recipe) : Recipe := .node r.directive (r.children ++ [child])

def clickTarget (r : Recipe) (selector : String) : Recipe :=
  r.modify ({ · with clickable := true, clickSelector := some selector })

def keepAttribute (r : Recipe) (name : String) : Recipe :=
  r.modify fun d ↦ { d with keepAttributes := d.keepAttributes ++ [name] }

def computedAttribute (r : Recipe) (name : String) (f : AttributeFunction) : Recipe :=
  r.modify fun d ↦ { d with computers := d.computers.insert name f }

mutual

def nodes : Recipe → List Recipe
  | .node d rs => .node d rs :: nodesAll rs

def nodesAll : List Recipe → List Recipe
  | [] => []
  | r :: rs => r.nodes ++ nodesAll rs

end

mutual

def count : Recipe → Nat
  | .node _ rs => 1 + countAll rs

def countAll : List Recipe → Nat
  | [] => 0
  | r :: rs => r.count + countAll rs

end

end Recipe

open Text (describe)

def TextSource.description : TextSource → String
  | .none => "None"
  | .selector s => "Selector(" ++ describe s ++ ")"
  | .extractor _ => "Extractor(<fn>)"
  | .own => "OwnText"

def NameMode.description : NameMode → String
  | .none => "None"
  | .literal name => "Literal(" ++ describe name ++ ")"
  | .fromText => "FromText"
  | .fromPosition => "FromPosition"

def listDescription (items : List String) : String :=
  "[" ++ String.intercalate ", " items ++ "]"

mutual

def Recipe.description : Recipe → String
  | .node d rs =>
    "RecipeNode \x7b selector: " ++ describe d.selector ++ ", name: " ++ d.name.description ++
      ", text: " ++ d.text.description ++ ", clickable: " ++ toString d.clickable ++
      ", metadata: " ++ toString d.metadata.isSome ++ ", attribute_computers: " ++
      listDescription (d.computers.keys.map describe) ++ ", children: " ++
      listDescription (descriptionAll rs) ++ ", .. \x7d"

def descriptionAll : List Recipe → List String
  | [] => []
  | r :: rs => r.description :: descriptionAll rs

end

end PageOutline
