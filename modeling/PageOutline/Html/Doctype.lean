import PageOutline.Html.Token
import PageOutline.Text.Ascii

namespace PageOutline.Html

open Text (asciiLower isAsciiBlank)

def skipBlanks (cs : List Char) : List Char := cs.dropWhile isAsciiBlank

def behindWord? (word cs : List Char) : Option (List Char) :=
  if (cs.take word.length).map Char.toLower = word then some (cs.drop word.length) else none

def behindClose (cs : List Char) : List Char := (cs.dropWhile (· != '>')).tail

def broken (d : Doctype) : Doctype := { d with isBroken := true }

/-- The doctype ends here if it is closed or the text ends, and then is read as it stands or as
broken. What else stands here is passed over. -/
def endDoctype (d : Doctype) : List Char → Doctype × List Char
  | [] => (broken d, [])
  | '>' :: r => (d, r)
  | cs => (broken d, behindClose cs)

def identifier (quote : Char) (cs : List Char) : String × Bool × List Char :=
  let inside (c : Char) : Bool := c != quote && c != '>'
  let s := String.ofList ((cs.takeWhile inside).map shown)
  match cs.dropWhile inside with
  | [] => (s, false, [])
  | c :: r => if c = quote then (s, true, r) else (s, false, c :: r)

def afterSystemId (d : Doctype) (cs : List Char) : Doctype × List Char :=
  match skipBlanks cs with
  | [] => (broken d, [])
  | cs => (d, behindClose cs)

def systemIdentifier? (d : Doctype) : List Char → Option (Doctype × List Char)
  | c :: r =>
    if c = '"' ∨ c = '\'' then
      match identifier c r with
      | (s, closed, r) =>
        let d := { d with systemId := some s }
        some (if closed then afterSystemId d r else endDoctype (broken d) r)
    else none
  | [] => none

def publicIdentifier (d : Doctype) (cs : List Char) : Doctype × List Char :=
  match skipBlanks cs with
  | c :: r =>
    if c = '"' ∨ c = '\'' then
      match identifier c r with
      | (s, closed, r) =>
        let d := { d with publicId := some s }
        if closed then (systemIdentifier? d (skipBlanks r)).getD (endDoctype d (skipBlanks r))
        else endDoctype (broken d) r
    else endDoctype (broken d) (c :: r)
  | [] => (broken d, [])

def afterName (d : Doctype) (cs : List Char) : Doctype × List Char :=
  let cs := skipBlanks cs
  match behindWord? ['p', 'u', 'b', 'l', 'i', 'c'] cs, behindWord? ['s', 'y', 's', 't', 'e', 'm'] cs with
  | some r, _ => publicIdentifier d r
  | none, some r => (systemIdentifier? d (skipBlanks r)).getD (endDoctype (broken d) (skipBlanks r))
  | none, none => endDoctype d cs

def readDoctype (cs : List Char) : Doctype × List Char :=
  let inName (c : Char) : Bool := !isAsciiBlank c && c != '>'
  let cs := skipBlanks cs
  match cs.takeWhile inName with
  | [] => endDoctype ⟨none, none, none, true⟩ cs
  | name =>
    afterName ⟨some (String.ofList (name.map loweredShown)), none, none, false⟩
      (cs.dropWhile inName)

def oldPublicBeginnings : List String :=
  ["-//advasoft ltd//dtd html 3.0 aswedit + extensions//",
   "-//as//dtd html 3.0 aswedit + extensions//", "-//ietf//dtd html 2.0 level 1//",
   "-//ietf//dtd html 2.0 level 2//", "-//ietf//dtd html 2.0 strict level 1//",
   "-//ietf//dtd html 2.0 strict level 2//", "-//ietf//dtd html 2.0 strict//",
   "-//ietf//dtd html 2.0//", "-//ietf//dtd html 2.1e//", "-//ietf//dtd html 3.0//",
   "-//ietf//dtd html 3.2 final//", "-//ietf//dtd html 3.2//", "-//ietf//dtd html 3//",
   "-//ietf//dtd html level 0//", "-//ietf//dtd html level 1//", "-//ietf//dtd html level 2//",
   "-//ietf//dtd html level 3//", "-//ietf//dtd html strict level 0//",
   "-//ietf//dtd html strict level 1//", "-//ietf//dtd html strict level 2//",
   "-//ietf//dtd html strict level 3//", "-//ietf//dtd html strict//", "-//ietf//dtd html//",
   "-//metrius//dtd metrius presentational//",
   "-//microsoft//dtd internet explorer 2.0 html strict//",
   "-//microsoft//dtd internet explorer 2.0 html//",
   "-//microsoft//dtd internet explorer 2.0 tables//",
   "-//microsoft//dtd internet explorer 3.0 html strict//",
   "-//microsoft//dtd internet explorer 3.0 html//",
   "-//microsoft//dtd internet explorer 3.0 tables//", "-//netscape comm. corp.//dtd html//",
   "-//netscape comm. corp.//dtd strict html//", "-//o'reilly and associates//dtd html 2.0//",
   "-//o'reilly and associates//dtd html extended 1.0//",
   "-//o'reilly and associates//dtd html extended relaxed 1.0//",
   "-//softquad software//dtd hotmetal pro 6.0::19990601::extensions to html 4.0//",
   "-//softquad//dtd hotmetal pro 4.0::19971010::extensions to html 4.0//",
   "-//spyglass//dtd html 2.0 extended//", "-//sq//dtd html 2.0 hotmetal + extensions//",
   "-//sun microsystems corp.//dtd hotjava html//",
   "-//sun microsystems corp.//dtd hotjava strict html//", "-//w3c//dtd html 3 1995-03-24//",
   "-//w3c//dtd html 3.2 draft//", "-//w3c//dtd html 3.2 final//", "-//w3c//dtd html 3.2//",
   "-//w3c//dtd html 3.2s draft//", "-//w3c//dtd html 4.0 frameset//",
   "-//w3c//dtd html 4.0 transitional//", "-//w3c//dtd html experimental 19960712//",
   "-//w3c//dtd html experimental 970421//", "-//w3c//dtd w3 html//",
   "-//w3o//dtd w3 html 3.0//", "-//webtechs//dtd mozilla html 2.0//",
   "-//webtechs//dtd mozilla html//"]

/-- Beginnings that only ask for the old model without a system identifier. -/
def transitionalBeginnings : List String :=
  ["-//w3c//dtd html 4.01 frameset//", "-//w3c//dtd html 4.01 transitional//"]

def oldPublicIds : List String :=
  ["-//w3o//dtd w3 html strict 3.0//en//", "-/w3c/dtd html 4.0 transitional/en", "html"]

def oldSystemId : String :=
  String.intercalate "/"
    ["http:", "", "www.ibm.com", "data", "dtd", "v11", "ibmxhtml1-transitional.dtd"]

/-- Whether a doctype asks for the page model of old browsers. -/
def Doctype.asksForOldModel (d : Doctype) : Bool :=
  let publicId := d.publicId.map asciiLower
  let begins (starts : List String) : Bool :=
    publicId.any fun s ↦ starts.any fun start ↦ start.toList.isPrefixOf s.toList
  d.isBroken || d.name != some "html" || publicId.any oldPublicIds.contains ||
    d.systemId.map asciiLower == some oldSystemId || begins oldPublicBeginnings ||
    (begins transitionalBeginnings && d.systemId.isNone)

end PageOutline.Html
