namespace PageOutline.Markup

def escapeTextChar (c : Char) : List Char :=
  if c == '&' then ['&', 'a', 'm', 'p', ';']
  else if c == '<' then ['&', 'l', 't', ';']
  else if c == '>' then ['&', 'g', 't', ';']
  else [c]

def escapeValueChar (c : Char) : List Char :=
  if c == '"' then ['&', 'q', 'u', 'o', 't', ';'] else escapeTextChar c

def escapeText (s : String) : String := String.ofList (s.toList.flatMap escapeTextChar)

def escapeValue (s : String) : String := String.ofList (s.toList.flatMap escapeValueChar)

def attributeMarkup (name value : String) : String :=
  " " ++ name ++ "=\"" ++ escapeValue value ++ "\""

def startTag (tag : String) (attributes : List (String × String)) : String :=
  "<" ++ tag ++ String.join (attributes.map fun (k, v) ↦ attributeMarkup k v) ++ ">"

def endTag (tag : String) : String := "</" ++ tag ++ ">"

def voidTags : List String :=
  ["area", "base", "br", "col", "embed", "hr", "img", "input", "link", "meta", "source", "track",
   "wbr"]

end PageOutline.Markup
