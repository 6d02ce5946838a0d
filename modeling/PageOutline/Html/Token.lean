namespace PageOutline.Html

structure Tag where
  name : String
  /-- In the order of the text, the first of each name. -/
  attributes : List (String × String)
  selfClosing : Bool
  deriving DecidableEq, Repr, Inhabited

def Tag.ofName (name : String) : Tag := ⟨name, [], false⟩

def Tag.attribute? (tag : Tag) (name : String) : Option String := tag.attributes.lookup name

structure Doctype where
  name : Option String
  publicId : Option String
  systemId : Option String
  /-- The doctype is not written as it should be. -/
  isBroken : Bool
  deriving DecidableEq, Repr, Inhabited

inductive Token where
  | char (c : Char)
  | startTag (tag : Tag)
  | endTag (name : String)
  | comment (s : String)
  | doctype (d : Doctype)
  /-- The end of the text. -/
  | finish
  deriving DecidableEq, Repr, Inhabited

/-- What a tag name, a value or raw text keeps of a character. -/
def shown (c : Char) : Char := if c = '\x00' then '\uFFFD' else c

def loweredShown (c : Char) : Char := shown c.toLower

end PageOutline.Html
