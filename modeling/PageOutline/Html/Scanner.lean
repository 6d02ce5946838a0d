import PageOutline.Html.Doctype
import PageOutline.Html.Reference

namespace PageOutline.Html

open Text (isAsciiBlank)

/-- How far a script is inside of a comment, with the number of dashes that were read last, up to
two. -/
inductive ScriptPart where
  | plain
  | comment (dashes : Nat)
  /-- Inside of a script in the comment, whose end tag ends no more than itself. -/
  | nested (dashes : Nat)
  deriving DecidableEq, Repr, Inhabited

inductive Reading where
  | markup
  /-- Text with character references, up to the end tag of the name. -/
  | text (name : String)
  /-- Text without character references, up to the end tag of the name. -/
  | rawText (name : String)
  | script (part : ScriptPart)
  /-- Text up to the end. -/
  | plainText
  deriving DecidableEq, Repr, Inhabited

/-- What is read next, how the text goes on, and what is left of it. -/
structure Scanned where
  tokens : List Token
  reading : Reading
  rest : List Char
  deriving Inhabited

def normalizeLines : List Char → List Char
  | [] => []
  | '\r' :: '\n' :: r => '\n' :: normalizeLines r
  | '\r' :: r => '\n' :: normalizeLines r
  | c :: r => c :: normalizeLines r

def endsTagName (c : Char) : Bool := isAsciiBlank c || c == '/' || c == '>'

/-- Reads a value up to a character in `stop`. The text is at most as long as the number. -/
def value (stop : Char → Bool) : Nat → List Char → List Char × List Char
  | 0, cs => ([], cs)
  | _ + 1, [] => ([], [])
  | limit + 1, c :: r =>
    if stop c then ([], c :: r)
    else if c = '&' then
      let (characters, r) := reference true r
      let (s, r) := value stop limit r
      (characters ++ s, r)
    else
      let (s, r) := value stop limit r
      (shown c :: s, r)

def attributeValue? (limit : Nat) (cs : List Char) : Option (String × List Char) :=
  match skipBlanks cs with
  | [] => none
  | '>' :: r => some ("", '>' :: r)
  | c :: r =>
    if c = '"' ∨ c = '\'' then
      match value (· == c) limit r with
      | (_, []) => none
      | (s, _ :: r) => some (String.ofList s, r)
    else
      match value (fun c ↦ isAsciiBlank c || c == '>') limit (c :: r) with
      | (s, r) => some (String.ofList s, r)

def attribute? (limit : Nat) : List Char → Option ((String × String) × List Char)
  | [] => none
  | c :: r =>
    let inName (c : Char) : Bool := !endsTagName c && c != '='
    let name := String.ofList ((c :: r.takeWhile inName).map loweredShown)
    match skipBlanks (r.dropWhile inName) with
    | '=' :: r => (attributeValue? limit r).map fun (value, r) ↦ ((name, value), r)
    | r => some ((name, ""), r)

def addAttribute (found : List (String × String)) (a : String × String) : List (String × String) :=
  if found.any (·.1 == a.1) then found else found ++ [a]

/-- Reads the attributes of a tag, and whether the tag closes itself. There is no tag where the text
ends inside of it. -/
def attributes : Nat → List (String × String) → List Char →
    Option (List (String × String) × Bool × List Char)
  | 0, _, _ => none
  | limit + 1, found, cs =>
    match skipBlanks cs with
    | [] => none
    | '>' :: r => some (found, false, r)
    | '/' :: '>' :: r => some (found, true, r)
    | '/' :: r => attributes limit found r
    | cs =>
      match attribute? limit cs with
      | some (a, r) => attributes limit (addAttribute found a) r
      | none => none

def tag? (limit : Nat) (cs : List Char) : Option (Tag × List Char) :=
  let inName (c : Char) : Bool := !endsTagName c
  let name := String.ofList ((cs.takeWhile inName).map loweredShown)
  (attributes limit [] (cs.dropWhile inName)).map fun (found, selfClosing, r) ↦
    (⟨name, found, selfClosing⟩, r)

/-- The token of a tag, and nothing more where the text ends inside of it. Behind a tag the text is
markup. -/
def tagToken (limit : Nat) (token : Tag → Token) (cs : List Char) : Scanned :=
  match tag? limit cs with
  | some (tag, r) => ⟨[token tag], .markup, r⟩
  | none => ⟨[], .markup, []⟩

def endTagToken (limit : Nat) (cs : List Char) : Scanned :=
  tagToken limit (fun tag ↦ .endTag tag.name) cs

def commentBody : List Char → List Char × List Char
  | [] => ([], [])
  | '-' :: '-' :: '>' :: r => ([], r)
  | '-' :: '-' :: '!' :: '>' :: r => ([], r)
  | c :: r =>
    match commentBody r with
    | (s, r) => (shown c :: s, r)

def comment : List Char → List Char × List Char
  | '>' :: r => ([], r)
  | '-' :: '>' :: r => ([], r)
  | cs => commentBody cs

def commentToken (s rest : List Char) : Scanned :=
  ⟨[.comment (String.ofList s)], .markup, rest⟩

/-- What is markup by its beginning only is a comment up to the next `>`. -/
def strayComment (cs : List Char) : Scanned :=
  commentToken ((cs.takeWhile (· != '>')).map shown) (behindClose cs)

def unparsed : List Char → List Char × List Char
  | [] => ([], [])
  | ']' :: ']' :: '>' :: r => ([], r)
  | c :: r =>
    match unparsed r with
    | (s, r) => (c :: s, r)

/-- Reads what begins with `<!`. Only in foreign content are there sections of unparsed text. -/
def declaration (foreign : Bool) (cs : List Char) : Scanned :=
  match behindWord? ['-', '-'] cs, behindWord? ['d', 'o', 'c', 't', 'y', 'p', 'e'] cs with
  | some r, _ =>
    match comment r with
    | (s, r) => commentToken s r
  | none, some r =>
    match readDoctype r with
    | (d, r) => ⟨[.doctype d], .markup, r⟩
  | none, none =>
    if foreign && cs.take 7 == ['[', 'C', 'D', 'A', 'T', 'A', '['] then
      match unparsed (cs.drop 7) with
      | (s, r) => ⟨s.map .char, .markup, r⟩
    else strayComment cs

def closing (limit : Nat) : List Char → Scanned
  | [] => ⟨[.char '<', .char '/'], .markup, []⟩
  | '>' :: r => ⟨[], .markup, r⟩
  | c :: r => if c.isAlpha then endTagToken limit (c :: r) else strayComment (c :: r)

def opening (limit : Nat) (foreign : Bool) : List Char → Scanned
  | [] => ⟨[.char '<'], .markup, []⟩
  | '/' :: r => closing limit r
  | '!' :: r => declaration foreign r
  | '?' :: r => strayComment ('?' :: r)
  | c :: r =>
    if c.isAlpha then tagToken limit .startTag (c :: r) else ⟨[.char '<'], .markup, c :: r⟩

def referenceTokens (reading : Reading) (cs : List Char) : Scanned :=
  match reference false cs with
  | (s, r) => ⟨s.map .char, reading, r⟩

def startsWithName (name cs : List Char) : Bool :=
  match behindWord? name cs with
  | some (c :: _) => endsTagName c
  | _ => false

def startsEndTag (name : String) : List Char → Bool
  | '/' :: r => startsWithName name.toList r
  | _ => false

def endTagOr (limit : Nat) (name : String) (reading : Reading) (r : List Char) : Scanned :=
  if startsEndTag name r then endTagToken limit r.tail else ⟨[.char '<'], reading, r⟩

def scriptName : List Char := ['s', 'c', 'r', 'i', 'p', 't']

def nextDashes (c : Char) (dashes : Nat) : Nat := if c = '-' then min 2 (dashes + 1) else 0

def scriptText (cs : List Char) (part : ScriptPart) (rest : List Char) : Scanned :=
  ⟨cs.map fun c ↦ .char (shown c), .script part, rest⟩

def scriptBracket (limit : Nat) (part : ScriptPart) (r : List Char) : Scanned :=
  match part with
  | .plain =>
    if startsEndTag "script" r then endTagToken limit r.tail
    else if ['!', '-', '-'].isPrefixOf r then scriptText ('<' :: r.take 3) (.comment 2) (r.drop 3)
    else scriptText ['<'] .plain r
  | .comment _ =>
    if startsEndTag "script" r then endTagToken limit r.tail
    else if startsWithName scriptName r then scriptText ('<' :: r.take 7) (.nested 0) (r.drop 7)
    else scriptText ['<'] (.comment 0) r
  | .nested _ =>
    if startsEndTag "script" r then scriptText ('<' :: r.take 8) (.comment 0) (r.drop 8)
    else scriptText ['<'] (.nested 0) r

/-- The part of a script behind a character other than `<`. A comment ends with `-->`. -/
def ScriptPart.next (c : Char) : ScriptPart → ScriptPart
  | .plain => .plain
  | .comment dashes => if c = '>' ∧ dashes = 2 then .plain else .comment (nextDashes c dashes)
  | .nested dashes => if c = '>' ∧ dashes = 2 then .plain else .nested (nextDashes c dashes)

/-- Reads a token, or a few characters. The text is at most `limit` long. -/
def scan (limit : Nat) (foreign : Bool) : Reading → List Char → Scanned
  | reading, [] => ⟨[], reading, []⟩
  | .markup, c :: r =>
    if c = '<' then opening limit foreign r
    else if c = '&' then referenceTokens .markup r
    else ⟨[.char c], .markup, r⟩
  | .text name, c :: r =>
    if c = '<' then endTagOr limit name (.text name) r
    else if c = '&' then referenceTokens (.text name) r
    else ⟨[.char (shown c)], .text name, r⟩
  | .rawText name, c :: r =>
    if c = '<' then endTagOr limit name (.rawText name) r
    else ⟨[.char (shown c)], .rawText name, r⟩
  | .script part, c :: r =>
    if c = '<' then scriptBracket limit part r else scriptText [c] (part.next c) r
  | .plainText, c :: r => ⟨[.char (shown c)], .plainText, r⟩

end PageOutline.Html
