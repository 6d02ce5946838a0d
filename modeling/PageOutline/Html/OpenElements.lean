import PageOutline.Html.Tree

namespace PageOutline.Html

structure OpenElement where
  /-- The number in the draft. -/
  id : Nat
  vocabulary : Vocabulary
  name : String
  deriving DecidableEq, Repr, Inhabited

namespace OpenElement

def isHtml (e : OpenElement) (name : String) : Bool :=
  e.vocabulary == .html && e.name == name

def isHtmlIn (e : OpenElement) (names : List String) : Bool :=
  e.vocabulary == .html && names.contains e.name

/-- Text and most elements inside of these are read as HTML. -/
def isMathText (e : OpenElement) : Bool :=
  e.vocabulary == .math && ["mi", "mo", "mn", "ms", "mtext"].contains e.name

/-- All text and elements inside of these are read as HTML. -/
def isHtmlIsland (e : OpenElement) : Bool :=
  e.vocabulary == .svg && ["foreignobject", "desc", "title"].contains e.name

def isHeading (e : OpenElement) : Bool := e.isHtmlIn ["h1", "h2", "h3", "h4", "h5", "h6"]

def isTableCell (e : OpenElement) : Bool := e.isHtmlIn ["td", "th"]

/-- Elements that end tags of formatting elements and of unknown ones do not pass. -/
def isSpecial (e : OpenElement) : Bool :=
  e.isHtmlIn
    ["address", "applet", "area", "article", "aside", "base", "basefont", "bgsound", "blockquote",
     "body", "br", "button", "caption", "center", "col", "colgroup", "dd", "details", "dir", "div",
     "dl", "dt", "embed", "fieldset", "figcaption", "figure", "footer", "form", "frame",
     "frameset", "h1", "h2", "h3", "h4", "h5", "h6", "head", "header", "hgroup", "hr", "html",
     "iframe", "img", "input", "isindex", "li", "link", "listing", "main", "marquee", "menu",
     "meta", "nav", "noembed", "noframes", "noscript", "object", "ol", "p", "param", "plaintext",
     "pre", "script", "section", "select", "source", "style", "summary", "table", "tbody", "td",
     "template", "textarea", "tfoot", "th", "thead", "title", "tr", "track", "ul", "wbr", "xmp"]

/-- Special elements that list items do not pass. -/
def shieldsItems (e : OpenElement) : Bool :=
  e.isSpecial && !e.isHtmlIn ["address", "div", "p"]

def shields (e : OpenElement) : Bool :=
  e.isHtmlIn
      ["applet", "caption", "html", "table", "td", "th", "marquee", "object", "template"] ||
    e.isMathText || e.isHtmlIsland

def shieldsInList (e : OpenElement) : Bool := e.shields || e.isHtmlIn ["ol", "ul"]

def shieldsInButton (e : OpenElement) : Bool := e.shields || e.isHtml "button"

def shieldsInTable (e : OpenElement) : Bool := e.isHtmlIn ["html", "table", "template"]

def shieldsInSelect (e : OpenElement) : Bool := !e.isHtmlIn ["optgroup", "option"]

/-- Elements whose end tag may be left out before that of a parent. -/
def hasImpliedEnd (e : OpenElement) : Bool :=
  e.isHtmlIn ["dd", "dt", "li", "option", "optgroup", "p", "rb", "rp", "rt", "rtc"]

/-- Elements whose text belongs in front of the table that they are part of. -/
def givesAway (e : OpenElement) : Bool := e.isHtmlIn ["table", "tbody", "tfoot", "thead", "tr"]

end OpenElement

def outside? (target shield : OpenElement → Bool) : List OpenElement → Option (List OpenElement)
  | [] => none
  | e :: es =>
    if target e then some es else if shield e then none else outside? target shield es

def inScope (target shield : OpenElement → Bool) (stack : List OpenElement) : Bool :=
  (outside? target shield stack).isSome

end PageOutline.Html
