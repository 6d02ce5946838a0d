import PageOutline.Html.Body

namespace PageOutline.Html

def Outcome.map (f : Builder → Builder) : Outcome → Outcome
  | .done b => .done (f b)
  | .again b => .again (f b)

namespace Builder

/-- Deals with a token as in the body, but puts what it makes in front of the table. -/
def foster (t : Token) (b : Builder) : Outcome :=
  (inBody t { b with fostering := true }).map ({ · with fostering := false })

/-- Text is kept until it is known whether it is blank. -/
def charInTable (c : Char) (b : Builder) : Outcome :=
  if b.stack.head?.any OpenElement.givesAway then
    .again { b with stageBehind := b.stage, stage := .inTableText, tableText := [] }
  else foster (.char c) b

def isTableContext (e : OpenElement) : Bool := e.shieldsInTable

def isBodyContext (e : OpenElement) : Bool :=
  e.isHtmlIn ["tbody", "tfoot", "thead", "template", "html"]

def isRowContext (e : OpenElement) : Bool := e.isHtmlIn ["tr", "template", "html"]

def isSection (name : String) : Bool := ["tbody", "tfoot", "thead"].contains name

def isCell (name : String) : Bool := ["td", "th"].contains name

def isTablePart (name : String) : Bool :=
  ["caption", "col", "colgroup", "tbody", "td", "tfoot", "th", "thead", "tr"].contains name

def isPage (name : String) : Bool := ["body", "html"].contains name

def hasInTable (b : Builder) (name : String) : Bool :=
  inScope (·.isHtml name) OpenElement.shieldsInTable b.stack

def openTablePart (b : Builder) (context : OpenElement → Bool) (tag : Tag) (stage : Stage) :
    Builder :=
  ((b.closeTo context).openHtml tag).goTo stage

def startInTable (tag : Tag) (b : Builder) : Outcome :=
  let name := tag.name
  if name = "caption" then
    .done (((b.closeTo isTableContext).pushMark.openHtml tag).goTo .inCaption)
  else if name = "colgroup" then .done (b.openTablePart isTableContext tag .inColumnGroup)
  else if name = "col" then
    .again (b.openTablePart isTableContext (.ofName "colgroup") .inColumnGroup)
  else if isSection name then .done (b.openTablePart isTableContext tag .inTableBody)
  else if isCell name ∨ name = "tr" then
    .again (b.openTablePart isTableContext (.ofName "tbody") .inTableBody)
  else if name = "table" then
    match b.close? (·.isHtml name) OpenElement.shieldsInTable with
    | some b => .again b.resetStage
    | none => .done b
  else if name = "style" ∨ name = "script" ∨ name = "template" then .done (b.startInHead tag)
  else if name = "input" && isHidden tag then .done (b.insertVoid tag)
  else if name = "form" then
    if b.hasOpen "template" || b.form.isSome then .done b
    else .done { b.insertVoid tag with form := some b.draft.size }
  else foster (.startTag tag) b

def inTable (t : Token) (b : Builder) : Outcome :=
  match t with
  | .char c => charInTable c b
  | .comment s => .done (b.insertComment s)
  | .doctype _ => .done b
  | .startTag tag => startInTable tag b
  | .endTag name =>
    if name = "table" then
      match b.close? (·.isHtml name) OpenElement.shieldsInTable with
      | some b => .done b.resetStage
      | none => .done b
    else if isPage name || isTablePart name then .done b
    else if name = "template" then .done b.endTemplate
    else foster t b
  | .finish => inBody t b

/-- Writes the text that a table has kept: into the table if it is blank, else in front of it. -/
def writeTableText (b : Builder) : Builder :=
  let cs := b.tableText.reverse
  let b := { b with tableText := [] }
  if cs.all isSpace then cs.foldl insertChar b
  else { cs.foldl charInBody { b with fostering := true } with fostering := false }

def inTableText (t : Token) (b : Builder) : Outcome :=
  match t with
  | .char c => .done (if c = '\x00' then b else { b with tableText := c :: b.tableText })
  | _ => .again (b.writeTableText.goTo b.stageBehind)

def inCaption (t : Token) (b : Builder) : Outcome :=
  let leave (outcome : Builder → Outcome) : Outcome :=
    match b.close? (·.isHtml "caption") OpenElement.shieldsInTable with
    | some b => outcome (b.clearToMark.goTo .inTable)
    | none => .done b
  match t with
  | .startTag tag => if isTablePart tag.name then leave .again else inBody t b
  | .endTag name =>
    if name = "caption" then leave .done
    else if name = "table" then leave .again
    else if isPage name || isTablePart name then .done b
    else inBody t b
  | _ => inBody t b

def inColumnGroup (t : Token) (b : Builder) : Outcome :=
  let leave (outcome : Builder → Outcome) : Outcome :=
    if b.currentIs "colgroup" then outcome (b.pop.goTo .inTable) else .done b
  match t with
  | .char c => if isSpace c then .done (b.insertChar c) else leave .again
  | .comment s => .done (b.insertComment s)
  | .doctype _ => .done b
  | .startTag tag =>
    if tag.name = "html" then .done (b.mergeHtml tag)
    else if tag.name = "col" then .done (b.insertVoid tag)
    else if tag.name = "template" then .done (b.startInHead tag)
    else leave .again
  | .endTag name =>
    if name = "colgroup" then leave .done
    else if name = "col" then .done b
    else if name = "template" then .done b.endTemplate
    else leave .again
  | .finish => inBody t b

def inTableBody (t : Token) (b : Builder) : Outcome :=
  let close : Builder := (b.closeTo isBodyContext).pop.goTo .inTable
  let leave : Outcome :=
    if inScope (·.isHtmlIn ["table", "tbody", "tfoot"]) OpenElement.shieldsInTable b.stack then
      .again close
    else .done b
  match t with
  | .startTag tag =>
    if tag.name = "tr" then .done (b.openTablePart isBodyContext tag .inRow)
    else if isCell tag.name then .again (b.openTablePart isBodyContext (.ofName "tr") .inRow)
    else if isTablePart tag.name then leave
    else inTable t b
  | .endTag name =>
    if isSection name then .done (if b.hasInTable name then close else b)
    else if name = "table" then leave
    else if isPage name || isTablePart name then .done b
    else inTable t b
  | _ => inTable t b

def inRow (t : Token) (b : Builder) : Outcome :=
  let close : Builder := (b.closeTo isRowContext).pop.goTo .inTableBody
  let leave : Outcome := if b.hasInTable "tr" then .again close else .done b
  match t with
  | .startTag tag =>
    if isCell tag.name then .done (b.openTablePart isRowContext tag .inCell).pushMark
    else if isTablePart tag.name then leave
    else inTable t b
  | .endTag name =>
    if name = "tr" then .done (if b.hasInTable name then close else b)
    else if name = "table" then leave
    else if isSection name then if b.hasInTable name then leave else .done b
    else if isPage name || isTablePart name then .done b
    else inTable t b
  | _ => inTable t b

def inCell (t : Token) (b : Builder) : Outcome :=
  let leave : Outcome :=
    match b.close? OpenElement.isTableCell OpenElement.shieldsInTable with
    | some b => .again (b.clearToMark.goTo .inRow)
    | none => .done b
  match t with
  | .startTag tag => if isTablePart tag.name then leave else inBody t b
  | .endTag name =>
    if isCell name then
      match b.close? (·.isHtml name) OpenElement.shieldsInTable with
      | some b => .done (b.clearToMark.goTo .inRow)
      | none => .done b
    else if isSection name ∨ name = "table" ∨ name = "tr" then
      if b.hasInTable name then leave else .done b
    else if isPage name || isTablePart name then .done b
    else inBody t b
  | _ => inBody t b

/-- Closes the select that is open, and goes on as what is outside of it asks for. -/
def leaveSelect (b : Builder) : Option Builder :=
  (b.close? (·.isHtml "select") OpenElement.shieldsInSelect).map resetStage

def endGroup (b : Builder) : Builder :=
  let b := match b.stack with
    | e :: f :: _ => if e.isHtml "option" && f.isHtml "optgroup" then b.pop else b
    | _ => b
  b.popIf "optgroup"

def inSelect (t : Token) (b : Builder) : Outcome :=
  match t with
  | .char c => .done (if c = '\x00' then b else b.insertChar c)
  | .comment s => .done (b.insertComment s)
  | .doctype _ => .done b
  | .startTag tag =>
    if tag.name = "html" then .done (b.mergeHtml tag)
    else if tag.name = "option" then .done ((b.popIf "option").openHtml tag)
    else if tag.name = "optgroup" then
      .done (((b.popIf "option").popIf "optgroup").openHtml tag)
    else if tag.name = "hr" then .done (((b.popIf "option").popIf "optgroup").insertVoid tag)
    else if tag.name = "select" then .done (b.leaveSelect.getD b)
    else if tag.name = "input" ∨ tag.name = "keygen" ∨ tag.name = "textarea" then
      match b.leaveSelect with
      | some b => .again b
      | none => .done b
    else if tag.name = "script" ∨ tag.name = "template" then .done (b.startInHead tag)
    else .done b
  | .endTag name =>
    if name = "optgroup" then .done b.endGroup
    else if name = "option" then .done (b.popIf "option")
    else if name = "select" then .done (b.leaveSelect.getD b)
    else if name = "template" then .done b.endTemplate
    else .done b
  | .finish => inBody t b

def inSelectInTable (t : Token) (b : Builder) : Outcome :=
  let isOuter (name : String) : Bool :=
    ["caption", "table", "tbody", "tfoot", "thead", "tr", "td", "th"].contains name
  let leave : Outcome := .again (b.closeThrough "select").resetStage
  match t with
  | .startTag tag => if isOuter tag.name then leave else inSelect t b
  | .endTag name =>
    if isOuter name then if b.hasInTable name then leave else .done b else inSelect t b
  | _ => inSelect t b

end Builder

end PageOutline.Html
