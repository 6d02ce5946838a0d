import PageOutline.Recipe.Basic
import PageOutline.Text.Lowercase
import PageOutline.Text.Runs

namespace PageOutline

open Text (lowercase replaceRuns)

def isWordChar (c : Char) : Bool := c.isAlpha || c.isDigit || c == '_'

/-- The lowercase of a text, with one underscore for every run of characters that are neither ASCII
letters, digits nor underscores. -/
def slugify (s : String) : String :=
  String.ofList (replaceRuns (fun c ↦ !isWordChar c) '_' (lowercase s).toList)

def joinName (parent segment : String) : String :=
  if parent.isEmpty then segment else parent ++ "." ++ segment

/-- The name of a node, where its recipe names it, and the parent of the names below it. -/
structure Naming where
  name : Option String
  childPrefix : String
  deriving DecidableEq, Repr, Inhabited

def Naming.named (name : String) : Naming := ⟨some name, name⟩

def Naming.usable? (n : Naming) : Option String := n.name.filter fun s ↦ !s.isEmpty

/-- Names a node with the given text and place below a parent. -/
def NameMode.resolve (mode : NameMode) (parent text : String) (index : Nat) : Naming :=
  match mode with
  | .none => ⟨Option.none, parent⟩
  | .literal name => .named (joinName parent name)
  | .fromText => .named (if text.isEmpty then "" else joinName parent (slugify text))
  | .fromPosition => .named (joinName parent (toString index))

end PageOutline
