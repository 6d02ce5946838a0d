import PageOutline.Html.Tables

namespace PageOutline.Html

namespace Builder

def enterTemplateStage (b : Builder) (stage : Stage) : Outcome :=
  .again { b with templateStages := stage :: b.templateStages.tail, stage }

def inTemplate (t : Token) (b : Builder) : Outcome :=
  match t with
  | .char _ | .comment _ => inBody t b
  | .doctype _ => .done b
  | .startTag tag =>
    let name := tag.name
    if headTags.contains name then .done (b.startInHead tag)
    else if name = "caption" ∨ name = "colgroup" ∨ isSection name then
      b.enterTemplateStage .inTable
    else if name = "col" then b.enterTemplateStage .inColumnGroup
    else if name = "tr" then b.enterTemplateStage .inTableBody
    else if isCell name then b.enterTemplateStage .inRow
    else b.enterTemplateStage .inBody
  | .endTag name => .done (if name = "template" then b.endTemplate else b)
  | .finish => b.finishTemplate

def afterBody (t : Token) (b : Builder) : Outcome :=
  match t with
  | .char c => if isSpace c then .done (b.charInBody c) else .again (b.goTo .inBody)
  | .comment s =>
    .done (match b.stack.getLast? with
      | some e => b.insertInto e.id (.comment s)
      | none => b)
  | .doctype _ => .done b
  | .startTag tag => if tag.name = "html" then .done (b.mergeHtml tag) else .again (b.goTo .inBody)
  | .endTag name =>
    if name = "html" then .done (b.goTo .afterAfterBody) else .again (b.goTo .inBody)
  | .finish => .done b

def inFrameset (t : Token) (b : Builder) : Outcome :=
  match t with
  | .char c => .done (if isSpace c then b.insertChar c else b)
  | .comment s => .done (b.insertComment s)
  | .doctype _ | .finish => .done b
  | .startTag tag =>
    .done (if tag.name = "html" then b.mergeHtml tag
      else if tag.name = "frameset" then b.openHtml tag
      else if tag.name = "frame" then b.insertVoid tag
      else if tag.name = "noframes" then b.startInHead tag
      else b)
  | .endTag name =>
    if name = "frameset" && 1 < b.stack.length then
      let b := b.pop
      .done (if b.currentIs name then b else b.goTo .afterFrameset)
    else .done b

def afterFrameset (t : Token) (b : Builder) : Outcome :=
  match t with
  | .char c => .done (if isSpace c then b.insertChar c else b)
  | .comment s => .done (b.insertComment s)
  | .doctype _ | .finish => .done b
  | .startTag tag =>
    .done (if tag.name = "html" then b.mergeHtml tag
      else if tag.name = "noframes" then b.startInHead tag
      else b)
  | .endTag name => .done (if name = "html" then b.goTo .afterAfterFrameset else b)

def afterAfterBody (t : Token) (b : Builder) : Outcome :=
  match t with
  | .char c => if isSpace c then .done (b.charInBody c) else .again (b.goTo .inBody)
  | .comment s => .done (b.insertInto Draft.document (.comment s))
  | .doctype _ | .finish => .done b
  | .startTag tag => if tag.name = "html" then .done (b.mergeHtml tag) else .again (b.goTo .inBody)
  | .endTag _ => .again (b.goTo .inBody)

def afterAfterFrameset (t : Token) (b : Builder) : Outcome :=
  match t with
  | .char c => .done (if isSpace c then b.charInBody c else b)
  | .comment s => .done (b.insertInto Draft.document (.comment s))
  | .doctype _ | .finish | .endTag _ => .done b
  | .startTag tag =>
    .done (if tag.name = "html" then b.mergeHtml tag
      else if tag.name = "noframes" then b.startInHead tag
      else b)

def step (t : Token) (b : Builder) : Outcome :=
  match b.stage with
  | .initial => initial t b
  | .beforeHtml => beforeHtml t b
  | .beforeHead => beforeHead t b
  | .inHead => inHead t b
  | .afterHead => afterHead t b
  | .inBody => inBody t b
  | .inText => inText t b
  | .inTable => inTable t b
  | .inTableText => inTableText t b
  | .inCaption => inCaption t b
  | .inColumnGroup => inColumnGroup t b
  | .inTableBody => inTableBody t b
  | .inRow => inRow t b
  | .inCell => inCell t b
  | .inSelect => inSelect t b
  | .inSelectInTable => inSelectInTable t b
  | .inTemplate => inTemplate t b
  | .afterBody => afterBody t b
  | .inFrameset => inFrameset t b
  | .afterFrameset => afterFrameset t b
  | .afterAfterBody => afterAfterBody t b
  | .afterAfterFrameset => afterAfterFrameset t b

def breakoutTags : List String :=
  ["b", "big", "blockquote", "body", "br", "center", "code", "dd", "div", "dl", "dt", "em",
   "embed", "h1", "h2", "h3", "h4", "h5", "h6", "head", "hr", "i", "img", "li", "listing", "menu",
   "meta", "nobr", "ol", "p", "pre", "ruby", "s", "small", "span", "strong", "strike", "sub",
   "sup", "table", "tt", "u", "ul", "var"]

def breaksOut (tag : Tag) : Bool :=
  breakoutTags.contains tag.name ||
    (tag.name == "font" && ["color", "face", "size"].any fun name ↦ (tag.attribute? name).isSome)

def isForeign (t : Token) (b : Builder) : Bool :=
  match b.stack with
  | [] => false
  | e :: _ =>
    e.vocabulary != .html &&
      match t with
      | .finish => false
      | .char _ => !e.isMathText && !e.isHtmlIsland
      | .startTag tag =>
        !(e.isMathText && !(["mglyph", "malignmark"].contains tag.name)) && !e.isHtmlIsland &&
          !(e.vocabulary == .math && e.name == "annotation-xml" && tag.name == "svg")
      | .comment _ | .doctype _ | .endTag _ => true

def breakOut (t : Token) (b : Builder) : Outcome :=
  step t (b.closeTo fun e ↦ e.vocabulary == .html || e.isMathText || e.isHtmlIsland)

/-- An end tag in foreign content closes the nearest element of its name, as far as that is outside
of HTML. `below` are the elements that have been passed. -/
def endForeign (b : Builder) (name : String) : Bool → List OpenElement → Outcome
  | _, [] => .done b
  | _, [_] => .done b
  | isFirst, e :: f :: es =>
    if !isFirst && e.vocabulary == .html then step (.endTag name) b
    else if e.name = name then .done { b with stack := f :: es }
    else endForeign b name false (f :: es)

def inForeign (t : Token) (b : Builder) : Outcome :=
  match t with
  | .char c =>
    .done ((if c = '\x00' ∨ isSpace c then b else b.forbidFrameset).insertChar (shown c))
  | .comment s => .done (b.insertComment s)
  | .doctype _ | .finish => .done b
  | .startTag tag =>
    if breaksOut tag then breakOut t b
    else
      match b.stack with
      | e :: _ => .done (b.startForeign e.vocabulary tag)
      | [] => .done b
  | .endTag name =>
    if name = "br" ∨ name = "p" then breakOut t b else endForeign b name true b.stack

def process (t : Token) : Nat → Builder → Builder
  | 0, b => b
  | fuel + 1, b =>
    match if isForeign t b then inForeign t b else step t b with
    | .done b => b
    | .again b => process t fuel b

/-- Takes in a token. Between two stages that close no element lie a few that do, so no token is shown
more often than this. -/
def feed (b : Builder) (t : Token) : Builder :=
  let fuel := 16 + 8 * b.stack.length
  let dropped := b.dropsLineFeed && t == .char '\n'
  let b := { b with dropsLineFeed := false }
  match t with
  | .doctype _ => if b.stage = .initial then process t fuel b else b
  | _ => if dropped then b else process t fuel b

end Builder

/-- Reads a text that is not longer than the number. What is read as nothing comes between a tag and
a line feed all the same. -/
def build : Nat → Reading → List Char → Builder → Builder
  | 0, _, _, b => b
  | _ + 1, _, [], b => b
  | fuel + 1, reading, c :: cs, b =>
    let foreign := b.stack.head?.any (·.vocabulary != .html)
    let scanned := scan (fuel + 1) foreign reading (c :: cs)
    let dropsLineFeed := b.dropsLineFeed && !scanned.tokens.isEmpty
    let b := scanned.tokens.foldl Builder.feed { b with reading := none, dropsLineFeed }
    build fuel (b.reading.getD scanned.reading) scanned.rest b

def parse (text : String) : List Node :=
  let cs := normalizeLines (match text.toList with
    | '\uFEFF' :: r => r
    | cs => cs)
  ((build cs.length .markup cs .start).feed .finish).draft.toNodes

end PageOutline.Html
