namespace PageOutline.Css

/-- A number knows its value only where it is whole, and whether a sign was written. -/
structure Numeric where
  signed : Bool
  whole : Option Int
  deriving DecidableEq, Repr, Inhabited

inductive Token where
  | ident (name : String)
  | function (name : String)
  | atKeyword (name : String)
  | idHash (name : String)
  | hash (name : String)
  | string (s : String)
  | badString
  | url
  | badUrl
  | number (n : Numeric)
  | percentage
  | dimension (n : Numeric) (unit : String)
  | blank
  | colon
  | semicolon
  | comma
  | delim (c : Char)
  | includeMatch
  | dashMatch
  | prefixMatch
  | suffixMatch
  | substringMatch
  | commentOpen
  | commentClose
  | parenOpen
  | squareOpen
  | curlyOpen
  | parenClose
  | squareClose
  | curlyClose
  deriving DecidableEq, Repr, Inhabited

def Token.closer? : Token → Option Token
  | .function _ | .parenOpen => some .parenClose
  | .squareOpen => some .squareClose
  | .curlyOpen => some .curlyClose
  | _ => none

/-- Tokens that can stand in no valid text: broken strings and addresses, and brackets that close
nothing. -/
def Token.isFault : Token → Bool
  | .badString | .badUrl | .parenClose | .squareClose | .curlyClose => true
  | _ => false

/-- A token, or an opening token with what stands before its closing one. -/
inductive Component where
  | leaf (token : Token)
  | block (opening : Token) (inside : List Component)
  deriving Repr, Inhabited

/-- An open block, with what was read in front of it and inside it, both last component first. -/
structure OpenBlock where
  opening : Token
  before : List Component

/-- Closes every block that is still open. -/
def closeAll (inside : List Component) : List OpenBlock → List Component
  | [] => inside.reverse
  | b :: bs => closeAll (.block b.opening inside.reverse :: b.before) bs

/-- Reads the tokens inside the blocks of `stack`. A bracket that does not close the innermost block
closes nothing. -/
def nestFrom (inside : List Component) (stack : List OpenBlock) : List Token → List Component
  | [] => closeAll inside stack
  | t :: ts =>
    if t.closer?.isSome then nestFrom [] (⟨t, inside⟩ :: stack) ts
    else
      match stack with
      | [] => nestFrom (.leaf t :: inside) [] ts
      | b :: bs =>
        if b.opening.closer? = some t then
          nestFrom (.block b.opening inside.reverse :: b.before) bs ts
        else nestFrom (.leaf t :: inside) (b :: bs) ts

def nest (tokens : List Token) : List Component := nestFrom [] [] tokens

end PageOutline.Css
