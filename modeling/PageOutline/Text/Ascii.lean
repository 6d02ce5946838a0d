namespace PageOutline.Text

def asciiLower (s : String) : String :=
  String.ofList (s.toList.map Char.toLower)

def eqIgnoringCase (s t : String) : Bool :=
  asciiLower s == asciiLower t

/-- Space, tab, line feed, form feed and carriage return. -/
def isAsciiBlank (c : Char) : Bool :=
  c == ' ' || c == '\t' || c == '\n' || c == '\x0c' || c == '\r'

def isAsciiAlphanumeric (c : Char) : Bool :=
  c.isAlpha || c.isDigit

def isHexDigit (c : Char) : Bool :=
  c.isDigit || ('a' ≤ c && c ≤ 'f') || ('A' ≤ c && c ≤ 'F')

def hexValue (c : Char) : Nat :=
  if c.isDigit then c.toNat - 48
  else if 'a' ≤ c && c ≤ 'f' then c.toNat - 87
  else if 'A' ≤ c && c ≤ 'F' then c.toNat - 55
  else 0

def ofDigits (base : Nat) (digits : List Char) : Nat :=
  digits.foldl (fun n c ↦ n * base + hexValue c) 0

/-- The character of a code point. A surrogate or a number past the last code point has none and
gives U+FFFD. -/
def charOfCode (n : Nat) : Char :=
  if h : n.isValidChar then Char.ofNatAux n h else '\uFFFD'

end PageOutline.Text
