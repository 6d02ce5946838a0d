import PageOutline.Css.Integer
import PageOutline.Css.Selector
import PageOutline.Text.Ascii
import PageOutline.Text.Runs
import PageOutline.Text.Search

namespace PageOutline.Css

open Text (asciiWords isAsciiBlank occursIn)

/-- What a selector can see of a tree whose nodes are numbered. Lists of elements start with the
nearest one. -/
structure View where
  localName : Nat → String
  attr : Nat → String → Option String
  /-- Whether the node has no parent of any kind. -/
  isRoot : Nat → Bool
  /-- Whether the node holds neither an element nor a text with characters. -/
  isEmpty : Nat → Bool
  ancestors : Nat → List Nat
  elementsBefore : Nat → List Nat
  elementsAfter : Nat → List Nat
  elementsBelow : Nat → List Nat

def comparedChars (ignoreCase : Bool) (s : String) : List Char :=
  if ignoreCase then s.toList.map Char.toLower else s.toList

def Comparison.holds (how : Comparison) (ignoreCase : Bool) (value wanted : String) : Bool :=
  let v := comparedChars ignoreCase value
  let w := comparedChars ignoreCase wanted
  match how with
  | .equal => v == w
  | .includes => !w.isEmpty && (Text.words isAsciiBlank v).contains w
  | .dash => v == w || (w ++ ['-']).isPrefixOf v
  | .startsWith => !w.isEmpty && w.isPrefixOf v
  | .endsWith => !w.isEmpty && w.isSuffixOf v
  | .contains => !w.isEmpty && occursIn w v

def AttributeTest.holds (test : AttributeTest) (value : String) : Bool :=
  match test with
  | .present => true
  | .compare how wanted ignoreCase => how.holds ignoreCase value wanted

/-- Whether `index = step * k + offset` for some natural `k`, in arithmetic that gives up past its
bounds. -/
def onProgression (step offset index : Int) : Bool :=
  let distance := index - offset
  if distance < -wordBound ∨ wordBound ≤ distance then false
  else match quotient? distance step with
    | some k => 0 ≤ k ∧ step * k = distance
    | none => distance = 0

namespace View

variable (view : View)

def beside (count : Count) (e : Nat) : List Nat :=
  if count.fromEnd then view.elementsAfter e else view.elementsBefore e

/-- The place of an element among the siblings that are counted, from 1. -/
def index (count : Count) (e : Nat) : Int :=
  wrap <| 1 + if count.sameType then
      (view.beside count e).countP (view.localName · == view.localName e)
    else (view.beside count e).length

/-- Whether the place of `e` is on the progression. The first place of all is known by its empty
side, without counting. -/
def isNth (count : Count) (step offset : Int) (e : Nat) : Bool :=
  if step = 0 ∧ offset = 1 ∧ !count.sameType then (view.beside count e).isEmpty
  else onProgression step offset (view.index count e)

/-- The elements that stand to `e` as the element left of a combinator stands to the one right
of it. -/
def leftOf (combinator : Combinator) (e : Nat) : List Nat :=
  match combinator with
  | .descendant => view.ancestors e
  | .child => (view.ancestors e).take 1
  | .nextSibling => (view.elementsBefore e).take 1
  | .laterSibling => view.elementsBefore e

/-- The elements among which a relative selector with this leading combinator can have its match. -/
def reach (combinator : Combinator) (e : Nat) : List Nat :=
  match combinator with
  | .descendant | .child => view.elementsBelow e
  | .nextSibling | .laterSibling =>
    view.elementsAfter e ++ (view.elementsAfter e).flatMap view.elementsBelow

end View

mutual

/-- Whether `e` satisfies a simple selector, under the scope element and inside a relative selector
that starts from `anchor`. -/
def Simple.matches (view : View) (scope anchor : Nat) : Simple → Nat → Bool
  | .any, _ => true
  | .localName name, e => view.localName e == name
  | .id name, e => view.attr e "id" == some name
  | .className name, e => ((view.attr e "class").map asciiWords).any (·.contains name)
  | .attr name test, e => (view.attr e name).any test.holds
  | .root, e => view.isRoot e
  | .empty, e => view.isEmpty e
  | .scope, e => e == scope
  | .nth count step offset, e => view.isNth count step offset e
  | .oneOf alternatives, e => anyMatches view scope anchor alternatives e
  | .noneOf alternatives, e => !anyMatches view scope anchor alternatives e
  | .has alternatives, e => anyReaches view scope alternatives e
  | .never, _ => false

def allMatch (view : View) (scope anchor : Nat) : List Simple → Nat → Bool
  | [], _ => true
  | s :: ss, e => s.matches view scope anchor e && allMatch view scope anchor ss e

def Complex.matches (view : View) (scope anchor : Nat) : Complex → Nat → Bool
  | .anchor, e => e == anchor
  | .compound parts, e => allMatch view scope anchor parts e
  | .step left combinator parts, e =>
    allMatch view scope anchor parts e &&
      (view.leftOf combinator e).any fun x ↦ left.matches view scope anchor x

def anyMatches (view : View) (scope anchor : Nat) : List Complex → Nat → Bool
  | [], _ => false
  | c :: cs, e => c.matches view scope anchor e || anyMatches view scope anchor cs e

def anyReaches (view : View) (scope : Nat) : List Complex → Nat → Bool
  | [], _ => false
  | c :: cs, e =>
    ((view.reach c.leading e).any fun x ↦ c.matches view scope e x) ||
      anyReaches view scope cs e

end

/-- Whether `e` matches a selector list, with `scope` as the `:scope` element. -/
def Selector.matches (selector : Selector) (view : View) (scope e : Nat) : Bool :=
  anyMatches view scope e selector.alternatives e

end PageOutline.Css
