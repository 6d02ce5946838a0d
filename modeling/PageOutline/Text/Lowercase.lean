import PageOutline.Text.Ascii
import PageOutline.Text.CaseTable

namespace PageOutline.Text

def isCased (c : Char) : Bool :=
  casedRanges.any (·.contains c.toNat)

def isCaseIgnorable (c : Char) : Bool :=
  caseIgnorableRanges.any (·.contains c.toNat)

def startsCased (cs : List Char) : Bool :=
  (cs.dropWhile isCaseIgnorable).head?.any isCased

/-- The lowercase of a character in any place where it is not a capital sigma. -/
def lowerChar (c : Char) : List Char :=
  if c.toNat < 0x80 then [c.toLower]
  else if c == '\u0130' then ['i', '\u0307']
  else
    match loweringRuns.findSome? (·.target? c.toNat) with
    | some n => [charOfCode n]
    | none => [c]

/-- Lowers `cs`, where `before` is the text in front of it, last character first. A sigma is final
iff a cased character stands before it and none after it. -/
def lowerAfter (before : List Char) : List Char → List Char
  | [] => []
  | c :: r =>
    let low :=
      if c == 'Σ' then if startsCased before && !startsCased r then ['ς'] else ['σ']
      else lowerChar c
    low ++ lowerAfter (c :: before) r

def lowercase (s : String) : String :=
  String.ofList (lowerAfter [] s.toList)

end PageOutline.Text
