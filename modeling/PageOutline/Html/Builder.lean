import PageOutline.Html.OpenElements
import PageOutline.Html.Scanner

namespace PageOutline.Html

/-- Where in the document the text has come. -/
inductive Stage where
  | initial
  | beforeHtml
  | beforeHead
  | inHead
  | afterHead
  | inBody
  | inText
  | inTable
  | inTableText
  | inCaption
  | inColumnGroup
  | inTableBody
  | inRow
  | inCell
  | inSelect
  | inSelectInTable
  | inTemplate
  | afterBody
  | inFrameset
  | afterFrameset
  | afterAfterBody
  | afterAfterFrameset
  deriving DecidableEq, Repr, Inhabited

/-- Formatting elements that are opened again where their end tag is missing, up to a mark. -/
inductive Formatting where
  | mark
  | element (id : Nat) (tag : Tag)
  deriving DecidableEq, Repr, Inhabited

structure Builder where
  draft : Draft
  /-- The open elements, the current one first. -/
  stack : List OpenElement
  /-- The latest one first. -/
  formatting : List Formatting
  stage : Stage
  /-- The stage to go back to behind a text. -/
  stageBehind : Stage
  /-- The stages inside of templates, the innermost first. -/
  templateStages : List Stage
  head : Option OpenElement
  form : Option Nat
  framesetAllowed : Bool
  /-- A line feed that comes next is dropped. -/
  dropsLineFeed : Bool
  /-- What a table has no place for goes in front of it. -/
  fostering : Bool
  tableText : List Char
  oldModel : Bool
  /-- What the text behind the last start tag is read as, if not as markup. -/
  reading : Option Reading
  deriving Inhabited

/-- What a token does: it is done with, or is to be seen again in a new state. -/
inductive Outcome where
  | done (b : Builder)
  | again (b : Builder)

def isSpace (c : Char) : Bool := Text.isAsciiBlank c

namespace Builder

def start : Builder where
  draft := .empty
  stack := []
  formatting := []
  stage := .initial
  stageBehind := .initial
  templateStages := []
  head := none
  form := none
  framesetAllowed := true
  dropsLineFeed := false
  fostering := false
  tableText := []
  oldModel := false
  reading := none

def goTo (b : Builder) (stage : Stage) : Builder := { b with stage }

def forbidFrameset (b : Builder) : Builder := { b with framesetAllowed := false }

def pop (b : Builder) : Builder := { b with stack := b.stack.tail }

def currentIs (b : Builder) (name : String) : Bool := b.stack.head?.any (·.isHtml name)

def popIf (b : Builder) (name : String) : Builder := if b.currentIs name then b.pop else b

def hasOpen (b : Builder) (name : String) : Bool := b.stack.any (·.isHtml name)

/-- Closes the elements up to the nearest target, where none shields it. -/
def close? (b : Builder) (target shield : OpenElement → Bool) : Option Builder :=
  (outside? target shield b.stack).map fun stack ↦ { b with stack }

def close (b : Builder) (target shield : OpenElement → Bool) : Builder :=
  (b.close? target shield).getD b

def closeThrough (b : Builder) (name : String) : Builder :=
  b.close (·.isHtml name) fun _ ↦ false

/-- Closes the elements inside of the nearest one that `outer` holds of. -/
def closeTo (b : Builder) (outer : OpenElement → Bool) : Builder :=
  { b with stack := b.stack.dropWhile fun e ↦ !outer e }

def closeParagraph (b : Builder) : Builder :=
  b.close (·.isHtml "p") OpenElement.shieldsInButton

def closeImplied (b : Builder) (kept : String) : Builder :=
  { b with stack := b.stack.dropWhile fun e ↦ e.hasImpliedEnd && !e.isHtml kept }

/-- The place for what a table gives away: in front of the table, or where the table hangs nowhere, in
the element outside of it. A template keeps what is inside of it. -/
def fosterPlace (draft : Draft) : List OpenElement → Draft.Place
  | [] => .last Draft.document
  | e :: es =>
    if e.isHtml "template" then .last e.id
    else if e.isHtml "table" then
      if (draft.parent? e.id).isSome then .before e.id
      else .last ((es.head?.map OpenElement.id).getD Draft.document)
    else if es.isEmpty then .last e.id
    else fosterPlace draft es

def placeIn (b : Builder) (target : OpenElement) : Draft.Place :=
  if b.fostering && target.givesAway then fosterPlace b.draft b.stack else .last target.id

def place (b : Builder) : Draft.Place :=
  match b.stack with
  | [] => .last Draft.document
  | e :: _ => b.placeIn e

def mapDraft (b : Builder) (f : Draft → Draft) : Builder := { b with draft := f b.draft }

def insert (b : Builder) (content : DraftContent) : Builder :=
  let place := b.place
  b.mapDraft (.add place content)

def insertInto (b : Builder) (parent : Nat) (content : DraftContent) : Builder :=
  b.mapDraft (.add (.last parent) content)

def insertChar (b : Builder) (c : Char) : Builder :=
  let place := b.place
  b.mapDraft (.addChar place c)

def insertComment (b : Builder) (s : String) : Builder := b.insert (.comment s)

def insertClosed (b : Builder) (vocabulary : Vocabulary) (tag : Tag) : Builder :=
  b.insert (.element vocabulary tag.name tag.attributes)

def insertOpen (b : Builder) (vocabulary : Vocabulary) (tag : Tag) : Builder :=
  let stack := ⟨b.draft.size, vocabulary, tag.name⟩ :: b.stack
  { b.insertClosed vocabulary tag with stack }

def openHtml (b : Builder) (tag : Tag) : Builder := b.insertOpen .html tag

def openNamed (b : Builder) (name : String) : Builder := b.openHtml (.ofName name)

def insertVoid (b : Builder) (tag : Tag) : Builder := b.insertClosed .html tag

def openText (b : Builder) (tag : Tag) (reading : Reading) : Builder :=
  { b.openHtml tag with stageBehind := b.stage, stage := .inText, reading := some reading }

def pushMark (b : Builder) : Builder := { b with formatting := .mark :: b.formatting }

def clearToMark (b : Builder) : Builder :=
  { b with formatting := (b.formatting.dropWhile (· != .mark)).tail }

/-- The stage that the open elements call for. -/
def stageFor (b : Builder) : List OpenElement → Stage
  | [] => .inBody
  | e :: es =>
    if e.isHtml "select" then
      match es.find? (·.isHtmlIn ["template", "table"]) with
      | some outer => if outer.isHtml "table" then .inSelectInTable else .inSelect
      | none => .inSelect
    else if e.isTableCell && !es.isEmpty then .inCell
    else if e.isHtml "tr" then .inRow
    else if e.isHtmlIn ["tbody", "thead", "tfoot"] then .inTableBody
    else if e.isHtml "caption" then .inCaption
    else if e.isHtml "colgroup" then .inColumnGroup
    else if e.isHtml "table" then .inTable
    else if e.isHtml "template" then b.templateStages.head?.getD .inBody
    else if e.isHtml "head" && !es.isEmpty then .inHead
    else if e.isHtml "body" then .inBody
    else if e.isHtml "frameset" then .inFrameset
    else if e.isHtml "html" then if b.head.isNone then .beforeHead else .afterHead
    else stageFor b es

def resetStage (b : Builder) : Builder := b.goTo (b.stageFor b.stack)

def body? (b : Builder) : Option OpenElement :=
  match b.stack.reverse with
  | _ :: e :: _ => if e.isHtml "body" then some e else none
  | _ => none

def mergeHtml (b : Builder) (tag : Tag) : Builder :=
  match b.stack.getLast? with
  | some e =>
    if b.hasOpen "template" then b
    else { b with draft := b.draft.addMissing e.id tag.attributes }
  | none => b

end Builder

end PageOutline.Html
