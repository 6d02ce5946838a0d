import PageOutline.Recipe.Basic
import PageOutline.Text.Blank
import PageOutline.Failure

namespace PageOutline

structure FunctionTable where
  textExtractors : List (String × TextFunction)
  metadataGenerators : List (String × MetadataFunction)
  attributeComputers : List (String × AttributeFunction)

namespace FunctionTable

instance : EmptyCollection FunctionTable := ⟨⟨[], [], []⟩⟩

/-- The text of an attribute, empty where there is none. -/
def attributeText (name : String) : TextFunction := fun node ↦ do
  return (← Inquiry.question (.attr node name)).getD ""

def attributeValue (name : String) : AttributeFunction := fun node ↦
  Inquiry.question (.attr node name)

/-- The node's text with its blanks collapsed, unless none is left. -/
def textRecord (name : String) : MetadataFunction := fun node ↦ do
  let text := Text.collapseBlanks (← Inquiry.question (.text node))
  return if text.isEmpty then none else some ⟨name, .string text⟩

def argument? (start : String) (name : String) : Option String :=
  if start.toList.isPrefixOf name.toList then
    match name.toList.drop start.length with
    | [] => none
    | rest => some (String.ofList rest)
  else none

/-- The registered function, else the built-in one that the name asks for. -/
def resolve {α : Type} (registered : List (String × α)) (start : String) (builtin : String → α)
    (kind : FunctionKind) (name : String) : Except Failure α :=
  match registered.lookup name with
  | some f => .ok f
  | none =>
    match argument? start name with
    | some rest => .ok (builtin rest)
    | none => .error (.config (.unknownFunction kind name))

def textExtractor (table : FunctionTable) : String → Except Failure TextFunction :=
  resolve table.textExtractors "attr:" attributeText .textExtractor

def metadataGenerator (table : FunctionTable) : String → Except Failure MetadataFunction :=
  resolve table.metadataGenerators "text:" textRecord .metadataGenerator

def attributeComputer (table : FunctionTable) : String → Except Failure AttributeFunction :=
  resolve table.attributeComputers "attr:" attributeValue .attributeComputer

end FunctionTable

end PageOutline
