import PageOutline.Html.ReferenceTable
import PageOutline.Text.Ascii
import PageOutline.Text.Runs

namespace PageOutline.Html

open Text (ofDigits charOfCode isAsciiAlphanumeric isHexDigit)

def codesIn (name : List Char) (line : String) : Option (List Char) :=
  (Text.words (· == ' ') line.toList).findSome? fun entry ↦
    let start := name ++ ['=']
    if start.isPrefixOf entry then some (entry.drop start.length) else none

def tableReference? (name : List Char) : Option (List Char) :=
  match name with
  | [] => none
  | c :: _ =>
    ((referenceLines c).findSome? (codesIn name)).map fun codes ↦
      (Text.words (· == '+') codes).map fun digits ↦ charOfCode (ofDigits 16 digits)

/-- The characters that a name stands for. The four names that markup cannot do without come first. -/
def namedReference? (name : List Char) : Option (List Char) :=
  if name = ['a', 'm', 'p'] then some ['&']
  else if name = ['l', 't'] then some ['<']
  else if name = ['g', 't'] then some ['>']
  else if name = ['q', 'u', 'o', 't'] then some ['"']
  else tableReference? name

def isOpenName (name : List Char) : Bool :=
  openNameLines.any fun line ↦ (Text.words (· == ' ') line.toList).contains name

/-- The longest beginning of a word that is a name without semicolon, at most `length` long, with
what follows it. -/
def openReference (word : List Char) : Nat → Option (List Char × List Char)
  | 0 => none
  | length + 1 =>
    let name := word.take (length + 1)
    if isOpenName name then
      (namedReference? name).map fun characters ↦ (characters, word.drop (length + 1))
    else openReference word length

/-- In a value, a name without semicolon is none before these. -/
def goesOn : List Char → Bool
  | [] => false
  | c :: _ => c == '=' || isAsciiAlphanumeric c

def namedReference (inValue : Bool) (cs : List Char) : Option (List Char × List Char) :=
  let word := cs.takeWhile isAsciiAlphanumeric
  let rest := cs.dropWhile isAsciiAlphanumeric
  let closed := match rest with
    | ';' :: r => (namedReference? word).map fun characters ↦ (characters, r)
    | _ => none
  match closed with
  | some found => some found
  | none =>
    match openReference word word.length with
    | some (characters, left) =>
      if inValue && goesOn (left ++ rest) then none else some (characters, left ++ rest)
    | none => none

/-- Codes from 128 to 159 stand for what an old Western code page has there. -/
def westernCodes : List Nat :=
  [0x20AC, 0x81, 0x201A, 0x192, 0x201E, 0x2026, 0x2020, 0x2021, 0x2C6, 0x2030, 0x160, 0x2039, 0x152,
   0x8D, 0x17D, 0x8F, 0x90, 0x2018, 0x2019, 0x201C, 0x201D, 0x2022, 0x2013, 0x2014, 0x2DC, 0x2122,
   0x161, 0x203A, 0x153, 0x9D, 0x17E, 0x178]

def numberedChar (code : Nat) : Char :=
  if code = 0 then '\uFFFD'
  else if 0x80 ≤ code ∧ code ≤ 0x9F then charOfCode (westernCodes.getD (code - 0x80) code)
  else charOfCode code

/-- Reads the digits of a numeric reference. The semicolon may be missing. -/
def numberBehind (isDigit : Char → Bool) (base : Nat) (cs : List Char) :
    Option (List Char × List Char) :=
  match cs.takeWhile isDigit with
  | [] => none
  | digits =>
    let rest := cs.dropWhile isDigit
    some ([numberedChar (ofDigits base digits)], if rest.head? = some ';' then rest.tail else rest)

def numericReference : List Char → Option (List Char × List Char)
  | 'x' :: r | 'X' :: r => numberBehind isHexDigit 16 r
  | cs => numberBehind Char.isDigit 10 cs

def reference (inValue : Bool) (cs : List Char) : List Char × List Char :=
  let found := match cs with
    | '#' :: r => numericReference r
    | cs => namedReference inValue cs
  found.getD (['&'], cs)

end PageOutline.Html
