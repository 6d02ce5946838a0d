import PageOutline.Html.Formatting

namespace PageOutline.Html

namespace Builder

def headTags : List String :=
  ["base", "basefont", "bgsound", "link", "meta", "noframes", "script", "style", "template",
   "title"]

def startInHead (b : Builder) (tag : Tag) : Builder :=
  if ["base", "basefont", "bgsound", "link", "meta"].contains tag.name then b.insertVoid tag
  else if tag.name = "title" then b.openText tag (.text tag.name)
  else if tag.name = "script" then b.openText tag (.script .plain)
  else if tag.name = "template" then
    { b.openHtml tag with
      formatting := .mark :: b.formatting
      framesetAllowed := false
      stage := .inTemplate
      templateStages := .inTemplate :: b.templateStages }
  else b.openText tag (.rawText tag.name)

def endTemplate (b : Builder) : Builder :=
  if b.hasOpen "template" then
    let b := (b.closeThrough "template").clearToMark
    { b with templateStages := b.templateStages.tail }.resetStage
  else b

/-- Before anything has come. A text without a proper doctype is for the model of old browsers. -/
def initial (t : Token) (b : Builder) : Outcome :=
  let enter : Outcome := .again { b with oldModel := true, stage := .beforeHtml }
  match t with
  | .char c => if isSpace c then .done b else enter
  | .comment s => .done (b.insertInto Draft.document (.comment s))
  | .doctype d =>
    .done { b.insertInto Draft.document (.doctype d) with
      oldModel := d.asksForOldModel, stage := .beforeHtml }
  | .startTag _ | .endTag _ | .finish => enter

/-- End tags that come before their element and stand for it. -/
def entersBody (name : String) : Bool := ["body", "html", "br"].contains name

def beforeHtml (t : Token) (b : Builder) : Outcome :=
  let enter : Outcome := .again ((b.openNamed "html").goTo .beforeHead)
  match t with
  | .char c => if isSpace c then .done b else enter
  | .comment s => .done (b.insertInto Draft.document (.comment s))
  | .startTag tag =>
    if tag.name = "html" then .done ((b.openHtml tag).goTo .beforeHead) else enter
  | .endTag name => if name = "head" || entersBody name then enter else .done b
  | .doctype _ => .done b
  | .finish => enter

def openHead (b : Builder) (tag : Tag) : Builder :=
  let b := b.openHtml tag
  { b with head := b.stack.head?, stage := .inHead }

def beforeHead (t : Token) (b : Builder) : Outcome :=
  let enter : Outcome := .again (b.openHead (.ofName "head"))
  match t with
  | .char c => if isSpace c then .done b else enter
  | .comment s => .done (b.insertComment s)
  | .startTag tag =>
    if tag.name = "html" then .done (b.mergeHtml tag)
    else if tag.name = "head" then .done (b.openHead tag)
    else enter
  | .endTag name => if name = "head" || entersBody name then enter else .done b
  | .doctype _ => .done b
  | .finish => enter

def inHead (t : Token) (b : Builder) : Outcome :=
  let leave : Builder := b.pop.goTo .afterHead
  match t with
  | .char c => if isSpace c then .done (b.insertChar c) else .again leave
  | .comment s => .done (b.insertComment s)
  | .startTag tag =>
    if tag.name = "html" then .done (b.mergeHtml tag)
    else if headTags.contains tag.name || tag.name = "noscript" then .done (b.startInHead tag)
    else if tag.name = "head" then .done b
    else .again leave
  | .endTag name =>
    if name = "head" then .done leave
    else if entersBody name then .again leave
    else if name = "template" then .done b.endTemplate
    else .done b
  | .doctype _ => .done b
  | .finish => .again leave

def startBehindHead (b : Builder) (tag : Tag) : Builder :=
  match b.head with
  | some head => ({ b with stack := head :: b.stack }.startInHead tag).removeOpen head.id
  | none => b

def afterHead (t : Token) (b : Builder) : Outcome :=
  let enter : Outcome := .again ((b.openNamed "body").goTo .inBody)
  match t with
  | .char c => if isSpace c then .done (b.insertChar c) else enter
  | .comment s => .done (b.insertComment s)
  | .startTag tag =>
    if tag.name = "html" then .done (b.mergeHtml tag)
    else if tag.name = "body" then .done ((b.openHtml tag).forbidFrameset.goTo .inBody)
    else if tag.name = "frameset" then .done ((b.openHtml tag).goTo .inFrameset)
    else if headTags.contains tag.name then .done (b.startBehindHead tag)
    else if tag.name = "head" then .done b
    else enter
  | .endTag name =>
    if name = "template" then .done b.endTemplate
    else if entersBody name then enter
    else .done b
  | .doctype _ => .done b
  | .finish => enter

end Builder

end PageOutline.Html
