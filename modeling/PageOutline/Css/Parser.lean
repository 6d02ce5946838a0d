import PageOutline.Css.Lexer
import PageOutline.Css.Selector
import PageOutline.Css.Nth

namespace PageOutline.Css

open Text (asciiLower)

namespace Parser

/-- A reader of components that may fail, and stays where it has got to. -/
abbrev Scan := OptionT (StateM (List Component))

structure Place where
  insideHas : Bool
  insideHost : Bool

def next : Scan Component := do
  match ← get with
  | [] => failure
  | c :: cs =>
    set cs
    return c

def skipBlanks : Scan Unit := modify Nth.skipBlank

def exhausted : Scan Bool := do
  return (Nth.skipBlank (← get)).isEmpty

def inside {α : Type} (cs : List Component) (scan : Scan α) : Scan α := do
  let after ← get
  set cs
  let result ← observing scan
  let complete ← exhausted
  set after
  match result with
  | some a => if complete then return a else failure
  | none => failure
where
  observing (scan : Scan α) : Scan (Option α) :=
    OptionT.lift scan.run

def splitCommas : List Component → List (List Component)
  | [] => [[]]
  | .leaf .comma :: cs => [] :: splitCommas cs
  | c :: cs =>
    match splitCommas cs with
    | [] => [[c]]
    | piece :: pieces => (c :: piece) :: pieces

mutual

/-- Whether no token at any depth is one that can stand in no valid text. -/
def faultless : List Component → Bool
  | [] => true
  | c :: cs => faultlessOne c && faultless cs

def faultlessOne : Component → Bool
  | .leaf t => !t.isFault
  | .block _ cs => faultless cs

end

/-- The combinator that comes next. Blanks alone are one only where something follows them. -/
def combinator : Nat → Bool → Scan Combinator
  | 0, _ => failure
  | fuel + 1, afterBlank => do
    match ← get with
    | [] => failure
    | .leaf .blank :: cs =>
      set cs
      combinator fuel true
    | .leaf (.delim '>') :: cs =>
      set cs
      return .child
    | .leaf (.delim '+') :: cs =>
      set cs
      return .nextSibling
    | .leaf (.delim '~') :: cs =>
      set cs
      return .laterSibling
    | _ => if afterBlank then return .descendant else failure

def combinator? : Scan (Option Combinator) := do
  OptionT.lift (combinator ((← get).length + 1) false).run

/-- The name behind a namespace bar. A universal name is allowed outside attribute selectors. -/
def afterBar (inAttribute : Bool) : Scan (Option String) := do
  match ← next with
  | .leaf (.delim '*') => if inAttribute then failure else return none
  | .leaf (.ident name) => return some name
  | _ => failure

/-- A type selector where one comes next. Namespace prefixes other than `*` and the empty one are
not declared. -/
def typeSelector : Scan (Option Simple) := do
  match ← get with
  | .leaf (.ident _) :: .leaf (.delim '|') :: cs =>
    set cs
    failure
  | .leaf (.ident name) :: cs =>
    set cs
    return some (.localName (asciiLower name))
  | .leaf (.delim '*') :: .leaf (.delim '|') :: cs | .leaf (.delim '|') :: cs =>
    set cs
    if cs.isEmpty then return none
    match ← afterBar false with
    | some name => return some (.localName (asciiLower name))
    | none => return some .any
  | .leaf (.delim '*') :: cs =>
    set cs
    return some .any
  | _ => return none

/-- Attributes whose values HTML compares without regard to case. -/
def caselessAttributes : List String :=
  ["accept", "accept-charset", "align", "alink", "axis", "bgcolor", "charset", "checked", "clear",
   "codetype", "color", "compact", "declare", "defer", "dir", "direction", "disabled", "enctype",
   "face", "frame", "hreflang", "http-equiv", "lang", "language", "link", "media", "method",
   "multiple", "nohref", "noresize", "noshade", "nowrap", "readonly", "rel", "rev", "rules",
   "scope", "scrolling", "selected", "shape", "target", "text", "type", "valign", "valuetype",
   "vlink"]

/-- The name of an attribute selector, and whether it stands for every namespace. -/
def attributeName : Scan (String × Bool) := do
  match ← get with
  | .leaf (.ident _) :: .leaf (.delim '|') :: _ => failure
  | .leaf (.ident name) :: cs =>
    set cs
    return (name, false)
  | .leaf (.delim '*') :: .leaf (.delim '|') :: cs =>
    set cs
    match ← afterBar true with
    | some name => return (name, true)
    | none => failure
  | .leaf (.delim '|') :: cs =>
    set cs
    match ← afterBar true with
    | some name => return (name, false)
    | none => failure
  | _ => failure

def comparison? : Token → Option Comparison
  | .delim '=' => some .equal
  | .includeMatch => some .includes
  | .dashMatch => some .dash
  | .prefixMatch => some .startsWith
  | .suffixMatch => some .endsWith
  | .substringMatch => some .contains
  | _ => none

def caseFlag : Scan (Option Bool) := do
  skipBlanks
  match ← get with
  | [] => return none
  | .leaf (.ident flag) :: cs =>
    set cs
    if asciiLower flag == "i" then return some true
    else if asciiLower flag == "s" then return some false
    else failure
  | _ => failure

def attributeSelector : Scan Simple := do
  skipBlanks
  let (given, everywhere) ← attributeName
  let name := asciiLower given
  skipBlanks
  match ← get with
  | [] => return .attr name .present
  | .leaf operator :: cs =>
    set cs
    let some how := comparison? operator | failure
    skipBlanks
    let value ← match ← next with
      | .leaf (.ident s) => pure s
      | .leaf (.string s) => pure s
      | _ => failure
    let flag ← caseFlag
    let ignoreCase := flag.getD (!everywhere && caselessAttributes.contains name)
    return .attr name (.compare how value ignoreCase)
  | _ => failure

def simplePseudoClass (name : String) : Option Simple :=
  match asciiLower name with
  | "root" => some .root
  | "empty" => some .empty
  | "scope" => some .scope
  | "first-child" => some (.nth ⟨false, false⟩ 0 1)
  | "last-child" => some (.nth ⟨false, true⟩ 0 1)
  | "first-of-type" => some (.nth ⟨true, false⟩ 0 1)
  | "last-of-type" => some (.nth ⟨true, true⟩ 0 1)
  | "only-child" => some (only false)
  | "only-of-type" => some (only true)
  | _ => none
where
  /-- First and last at once. -/
  only (sameType : Bool) : Simple :=
    .oneOf [.compound [.nth ⟨sameType, false⟩ 0 1, .nth ⟨sameType, true⟩ 0 1]]

def nthCount? (name : String) : Option Count :=
  match name with
  | "nth-child" => some ⟨false, false⟩
  | "nth-last-child" => some ⟨false, true⟩
  | "nth-of-type" => some ⟨true, false⟩
  | "nth-last-of-type" => some ⟨true, true⟩
  | _ => none

def nthPseudoClass (count : Count) : Scan Simple := do
  match Nth.parse (← get) with
  | some ((step, offset), cs) =>
    set cs
    return .nth count step offset
  | none => failure

structure ListForm where
  forgiving : Bool
  relative : Bool

/-- One member of a selector list, read with `complex`. Nothing is given for a member that is
dropped. -/
def member (complex : Scan Complex) (form : ListForm) (piece : List Component) :
    Option (Option Complex) :=
  match complex.run.run piece with
  | (some c, rest) =>
    if (Nth.skipBlank rest).isEmpty then some (some c)
    else if form.forgiving && faultless rest then some none
    else none
  | (none, rest) => if form.forgiving && faultless rest then some none else none

def members (complex : Scan Complex) (form : ListForm) : Scan (List Complex) := do
  let pieces := splitCommas (← get)
  set ([] : List Component)
  match pieces.mapM (member complex form) with
  | some found => return found.filterMap id
  | none => failure

/-- What a function with this name and arguments stands for. `complex` reads the selectors in its
arguments. -/
def functionalPseudoClass (complex : Place → Bool → Scan Complex) (place : Place) (name : String) :
    Scan Simple := do
  let name := asciiLower name
  if let some count := nthCount? name then nthPseudoClass count
  else if name == "is" || name == "where" then
    return .oneOf (← members (complex place false) ⟨true, false⟩)
  else if name == "not" then
    return .noneOf (← members (complex place false) ⟨false, false⟩)
  else if name == "has" then
    if place.insideHas then failure
    return .has (← members (complex ⟨true, place.insideHost⟩ true) ⟨false, true⟩)
  else if name == "host" then
    discard (complex ⟨place.insideHas, true⟩ false)
    return .never
  else failure

def simple (complex : Place → Bool → Scan Complex) (place : Place) : Scan (Option Simple) := do
  match ← get with
  | .leaf (.idHash name) :: cs =>
    set cs
    return some (.id name)
  | .leaf (.delim '.') :: cs =>
    set cs
    match ← next with
    | .leaf (.ident name) => return some (.className name)
    | _ => failure
  | .block .squareOpen cs :: after =>
    set after
    return some (← inside cs attributeSelector)
  | .leaf .colon :: cs =>
    set cs
    match ← next with
    | .leaf (.ident name) =>
      match simplePseudoClass name with
      | some s => return some s
      | none => failure
    | .block (.function name) cs =>
      return some (← inside cs (functionalPseudoClass complex place name))
    | .leaf .colon => do
      discard next
      failure
    | _ => failure
  | _ => return none

def simples (one : Scan (Option Simple)) : Nat → Scan (List Simple)
  | 0 => return []
  | fuel + 1 => do
    match ← one with
    | some s => return s :: (← simples one fuel)
    | none => return []

def compound (one : Scan (Option Simple)) : Scan (List Simple) := do
  skipBlanks
  let type ← typeSelector
  let others ← simples one ((← get).length + 1)
  match type.toList ++ others with
  | [] => failure
  | parts => return parts

def steps (place : Place) (one : Scan (Option Simple)) : Nat → Complex → Scan Complex
  | 0, left => return left
  | fuel + 1, left => do
    match ← combinator? with
    | none => return left
    | some c =>
      if place.insideHost then failure
      steps place one fuel (.step left c (← compound one))

/-- A complex selector whose functions nest at most `levels` deep. -/
def complex : Nat → Place → Bool → Scan Complex
  | 0, _, _ => failure
  | levels + 1, place, relative => do
    let one := simple (complex levels) place
    skipBlanks
    let first ← if relative then do
        let c := (← combinator?).getD .descendant
        pure (.step .anchor c (← compound one))
      else pure (.compound (← compound one))
    steps place one ((← get).length + 1) first

end Parser

def Selector.parse? (s : String) : Option Selector :=
  let cs := components s
  let levels := s.length + 1
  match (Parser.members (Parser.complex levels ⟨false, false⟩ false) ⟨false, false⟩).run.run cs with
  | (some alternatives, _) => some ⟨alternatives⟩
  | (none, _) => none

end PageOutline.Css
