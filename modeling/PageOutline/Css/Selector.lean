namespace PageOutline.Css

inductive Combinator where
  | descendant
  | child
  | nextSibling
  | laterSibling
  deriving DecidableEq, Repr, Inhabited

inductive Comparison where
  | equal
  | includes
  | dash
  | startsWith
  | endsWith
  | contains
  deriving DecidableEq, Repr, Inhabited

inductive AttributeTest where
  | present
  | compare (how : Comparison) (value : String) (ignoreCase : Bool)
  deriving DecidableEq, Repr, Inhabited

structure Count where
  sameType : Bool
  fromEnd : Bool
  deriving DecidableEq, Repr, Inhabited

mutual

inductive Simple where
  /-- `*`, and the namespace forms, which every element satisfies. -/
  | any
  | localName (name : String)
  | id (name : String)
  | className (name : String)
  | attr (name : String) (test : AttributeTest)
  | root
  | empty
  | scope
  /-- The position among siblings is `step * k + offset` for some `k`. -/
  | nth (count : Count) (step offset : Int)
  | oneOf (alternatives : List Complex)
  | noneOf (alternatives : List Complex)
  /-- Some element matches one of the alternatives, which start at this element. -/
  | has (alternatives : List Complex)
  /-- Satisfied by no element: shadow hosts do not occur. -/
  | never

inductive Complex where
  /-- The element that a relative selector starts from. -/
  | anchor
  | compound (parts : List Simple)
  /-- `parts` hold of the element, and `left` of one that stands to it as the combinator says. -/
  | step (left : Complex) (combinator : Combinator) (parts : List Simple)

end

instance : Inhabited Simple := ⟨.any⟩
instance : Inhabited Complex := ⟨.anchor⟩

/-- A selector list, with at least one alternative where it was read from a text. -/
structure Selector where
  alternatives : List Complex

def Complex.leading : Complex → Combinator
  | .step .anchor combinator _ => combinator
  | .step left _ _ => left.leading
  | _ => .descendant

end PageOutline.Css
