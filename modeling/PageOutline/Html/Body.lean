import PageOutline.Html.Head

namespace PageOutline.Html

namespace Builder

/-- Elements that end an open paragraph. -/
def blockTags : List String :=
  ["address", "article", "aside", "blockquote", "center", "details", "dialog", "dir", "div", "dl",
   "fieldset", "figcaption", "figure", "footer", "header", "hgroup", "main", "menu", "nav", "ol",
   "p", "search", "section", "summary", "ul"]

/-- Elements whose end tag closes them and what is open in them. -/
def closedTags : List String :=
  ["address", "article", "aside", "blockquote", "button", "center", "details", "dialog", "dir",
   "div", "dl", "fieldset", "figcaption", "figure", "footer", "header", "hgroup", "listing",
   "main", "menu", "nav", "ol", "pre", "search", "section", "summary", "ul"]

def headingTags : List String := ["h1", "h2", "h3", "h4", "h5", "h6"]

def formattingTags : List String :=
  ["b", "big", "code", "em", "font", "i", "s", "small", "strike", "strong", "tt", "u"]

/-- Elements that keep formatting elements to themselves. -/
def embeddedTags : List String := ["applet", "marquee", "object"]

def voidTags : List String := ["area", "br", "embed", "img", "keygen", "wbr", "input"]

def misplacedTags : List String :=
  ["caption", "col", "colgroup", "frame", "head", "tbody", "td", "tfoot", "th", "thead", "tr"]

def isHidden (tag : Tag) : Bool :=
  (tag.attribute? "type").any (Text.eqIgnoringCase · "hidden")

def mergeBody (b : Builder) (tag : Tag) : Builder :=
  match b.body? with
  | some body =>
    if b.hasOpen "template" then b
    else { b with draft := b.draft.addMissing body.id tag.attributes }.forbidFrameset
  | none => b

def replaceBody (b : Builder) (tag : Tag) : Builder :=
  match b.body? with
  | some body =>
    if b.framesetAllowed then
      ({ b with
          draft := b.draft.detach body.id
          stack := b.stack.drop (b.stack.length - 1) }.openHtml tag).goTo .inFrameset
    else b
  | none => b

def startForm (b : Builder) (tag : Tag) : Builder :=
  if b.hasOpen "template" then b.closeParagraph.openHtml tag
  else if b.form.isSome then b
  else
    let b := b.closeParagraph.openHtml tag
    { b with form := b.stack.head?.map OpenElement.id }

def startItem (b : Builder) (tag : Tag) : Builder :=
  let isItem (e : OpenElement) : Bool :=
    if tag.name = "li" then e.isHtml "li" else e.isHtmlIn ["dd", "dt"]
  (b.forbidFrameset.close isItem OpenElement.shieldsItems).closeParagraph.openHtml tag

def startHeading (b : Builder) (tag : Tag) : Builder :=
  let b := b.closeParagraph
  (if b.stack.head?.any OpenElement.isHeading then b.pop else b).openHtml tag

def startSelect (b : Builder) (tag : Tag) : Builder :=
  let inTable := [.inTable, .inCaption, .inTableBody, .inRow, .inCell].contains b.stage
  (b.reopenFormatting.openHtml tag).forbidFrameset.goTo
    (if inTable then .inSelectInTable else .inSelect)

def startRuby (b : Builder) (tag : Tag) (kept : String) : Builder :=
  (if inScope (·.isHtml "ruby") OpenElement.shields b.stack then b.closeImplied kept
    else b).openHtml tag

/-- Attributes with a space of their own, by the name that they have within it. -/
def foreignName (name : String) : String :=
  if ["xlink:actuate", "xlink:arcrole", "xlink:href", "xlink:role", "xlink:show", "xlink:title",
      "xlink:type", "xmlns:xlink"].contains name then String.ofList (name.toList.drop 6)
  else if ["xml:base", "xml:lang", "xml:space"].contains name then
    String.ofList (name.toList.drop 4)
  else name

def startForeign (b : Builder) (vocabulary : Vocabulary) (tag : Tag) : Builder :=
  let attributes := tag.attributes.map fun (name, value) ↦ (foreignName name, value)
  let adjusted := { tag with attributes }
  if tag.selfClosing then b.insertClosed vocabulary adjusted
  else b.insertOpen vocabulary adjusted

def startInBody (b : Builder) (tag : Tag) : Builder :=
  let name := tag.name
  if name = "html" then b.mergeHtml tag
  else if headTags.contains name || name = "noscript" then b.startInHead tag
  else if name = "body" then b.mergeBody tag
  else if name = "frameset" then b.replaceBody tag
  else if blockTags.contains name then b.closeParagraph.openHtml tag
  else if headingTags.contains name then b.startHeading tag
  else if name = "pre" ∨ name = "listing" then
    { b.closeParagraph.openHtml tag with dropsLineFeed := true, framesetAllowed := false }
  else if name = "form" then b.startForm tag
  else if name = "li" ∨ name = "dd" ∨ name = "dt" then b.startItem tag
  else if name = "plaintext" then
    { b.closeParagraph.openHtml tag with reading := some .plainText }
  else if name = "button" then
    ((b.close (·.isHtml name) OpenElement.shields).reopenFormatting.openHtml tag).forbidFrameset
  else if name = "a" then b.endOpenLink.reopenFormatting.startFormatting tag
  else if formattingTags.contains name then b.reopenFormatting.startFormatting tag
  else if name = "nobr" then
    let b := b.reopenFormatting
    (if inScope (·.isHtml name) OpenElement.shields b.stack then
      (b.endFormatting name).reopenFormatting else b).startFormatting tag
  else if embeddedTags.contains name then
    (b.reopenFormatting.openHtml tag).pushMark.forbidFrameset
  else if name = "table" then
    ((if b.oldModel then b else b.closeParagraph).openHtml tag).forbidFrameset.goTo .inTable
  else if voidTags.contains name then
    let b := b.reopenFormatting.insertVoid tag
    if name = "input" && isHidden tag then b else b.forbidFrameset
  else if name = "param" ∨ name = "source" ∨ name = "track" then b.insertVoid tag
  else if name = "hr" then (b.closeParagraph.insertVoid tag).forbidFrameset
  else if name = "image" then
    (b.reopenFormatting.insertVoid { tag with name := "img" }).forbidFrameset
  else if name = "textarea" then
    { b.openText tag (.text name) with dropsLineFeed := true, framesetAllowed := false }
  else if name = "xmp" then
    b.closeParagraph.reopenFormatting.forbidFrameset.openText tag (.rawText name)
  else if name = "iframe" then b.forbidFrameset.openText tag (.rawText name)
  else if name = "noembed" then b.openText tag (.rawText name)
  else if name = "select" then b.startSelect tag
  else if name = "optgroup" ∨ name = "option" then
    (b.popIf "option").reopenFormatting.openHtml tag
  else if name = "rb" ∨ name = "rtc" then b.startRuby tag ""
  else if name = "rp" ∨ name = "rt" then b.startRuby tag "rtc"
  else if name = "math" then b.reopenFormatting.startForeign .math tag
  else if name = "svg" then b.reopenFormatting.startForeign .svg tag
  else if misplacedTags.contains name then b
  else b.reopenFormatting.openHtml tag

def endForm (b : Builder) : Builder :=
  if b.hasOpen "template" then b.close (·.isHtml "form") OpenElement.shields
  else
    match b.form with
    | none => b
    | some id =>
      let b := { b with form := none }
      if inScope (·.id == id) OpenElement.shields b.stack then (b.closeImplied "").removeOpen id
      else b

/-- Ends a paragraph. Without one, an empty one is put in the place. -/
def endParagraph (b : Builder) : Builder :=
  (b.close? (·.isHtml "p") OpenElement.shieldsInButton).getD (b.insertVoid (.ofName "p"))

def endInBody (b : Builder) (name : String) : Builder :=
  if name = "template" then b.endTemplate
  else if closedTags.contains name then b.close (·.isHtml name) OpenElement.shields
  else if name = "form" then b.endForm
  else if name = "p" then b.endParagraph
  else if name = "li" then b.close (·.isHtml name) OpenElement.shieldsInList
  else if name = "dd" ∨ name = "dt" then b.close (·.isHtml name) OpenElement.shields
  else if headingTags.contains name then b.close OpenElement.isHeading OpenElement.shields
  else if name = "a" ∨ name = "nobr" ∨ formattingTags.contains name then b.endFormatting name
  else if embeddedTags.contains name then
    ((b.close? (·.isHtml name) OpenElement.shields).map clearToMark).getD b
  else if name = "br" then (b.reopenFormatting.insertVoid (.ofName "br")).forbidFrameset
  else b.endOther name

def charInBody (b : Builder) (c : Char) : Builder :=
  if c = '\x00' then b
  else
    let b := b.reopenFormatting
    (if isSpace c then b else b.forbidFrameset).insertChar c

/-- The end of the text closes the templates that are open, one by one. -/
def finishTemplate (b : Builder) : Outcome :=
  if b.hasOpen "template" then
    let b := (b.closeThrough "template").clearToMark
    .again { b with templateStages := b.templateStages.tail }.resetStage
  else .done b

def inBody (t : Token) (b : Builder) : Outcome :=
  let hasBody := inScope (·.isHtml "body") OpenElement.shields b.stack
  match t with
  | .char c => .done (b.charInBody c)
  | .comment s => .done (b.insertComment s)
  | .doctype _ => .done b
  | .startTag tag => .done (b.startInBody tag)
  | .endTag name =>
    if name = "body" then .done (if hasBody then b.goTo .afterBody else b)
    else if name = "html" then if hasBody then .again (b.goTo .afterBody) else .done b
    else .done (b.endInBody name)
  | .finish => if b.templateStages.isEmpty then .done b else b.finishTemplate

def inText (t : Token) (b : Builder) : Outcome :=
  match t with
  | .char c => .done (b.insertChar c)
  | .finish => .again (b.pop.goTo b.stageBehind)
  | .endTag _ => .done (b.pop.goTo b.stageBehind)
  | .comment _ | .doctype _ | .startTag _ => .done b

end Builder

end PageOutline.Html
