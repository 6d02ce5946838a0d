import PageOutline.Css.Integer
import PageOutline.Css.Token
import PageOutline.Text.Ascii

namespace PageOutline.Css.Lexer

open Text (isHexDigit ofDigits charOfCode)

def isNewline (c : Char) : Bool := c == '\n' || c == '\r' || c == '\x0c'

def isBlank (c : Char) : Bool := c == ' ' || c == '\t' || isNewline c

/-- Letters, the underscore, U+0000 and everything outside ASCII. -/
def isNameStart (c : Char) : Bool :=
  c.isAlpha || c == '_' || c == '\x00' || 0x80 ≤ c.toNat

def isNameChar (c : Char) : Bool :=
  isNameStart c || c.isDigit || c == '-'

/-- Whether a backslash that comes before these characters starts an escape. -/
def escapes (after : List Char) : Bool := !after.head?.any isNewline

/-- Passes over one newline, a carriage return with its line feed as one. -/
def dropNewline : List Char → List Char
  | '\r' :: '\n' :: cs => cs
  | _ :: cs => cs
  | [] => []

/-- The character of an escape whose backslash is behind, and what follows it. Up to six
hexadecimal digits name a code point, and take one blank after them along. -/
def escape : List Char → Char × List Char
  | [] => ('\uFFFD', [])
  | c :: cs =>
    if isHexDigit c then
      let digits := (c :: cs.take 5).takeWhile isHexDigit
      let n := ofDigits 16 digits
      let after := (c :: cs).drop digits.length
      (if n = 0 then '\uFFFD' else charOfCode n,
        if after.head?.any isBlank then dropNewline after else after)
    else (if c == '\x00' then '\uFFFD' else c, cs)

def startsIdent : List Char → Bool
  | '-' :: c :: cs => isNameStart c || c == '-' || (c == '\\' && escapes cs)
  | '\\' :: cs => escapes cs
  | c :: _ => isNameStart c
  | [] => false

def name : Nat → List Char → List Char × List Char
  | 0, cs => ([], cs)
  | _ + 1, [] => ([], [])
  | fuel + 1, c :: cs =>
    if c == '\\' then
      if escapes cs then
        match escape cs with
        | (d, cs) =>
          match name fuel cs with
          | (n, cs) => (d :: n, cs)
      else ([], c :: cs)
    else if isNameChar c then
      match name fuel cs with
      | (n, cs) => ((if c == '\x00' then '\uFFFD' else c) :: n, cs)
    else ([], c :: cs)

def nameOf (cs : List Char) : String × List Char :=
  match name cs.length cs with
  | (n, cs) => (String.ofList n, cs)

/-- A string up to its closing quote. A newline breaks it and is left standing. -/
def stringBody (quote : Char) : Nat → List Char → Option (List Char) × List Char
  | 0, cs => (some [], cs)
  | _ + 1, [] => (some [], [])
  | fuel + 1, c :: cs =>
    if c = quote then (some [], cs)
    else if isNewline c then (none, c :: cs)
    else if c == '\\' then
      match cs with
      | [] => (some [], [])
      | d :: _ =>
        if isNewline d then stringBody quote fuel (dropNewline cs)
        else
          match escape cs with
          | (e, cs) =>
            match stringBody quote fuel cs with
            | (s, cs) => (s.map (e :: ·), cs)
    else
      match stringBody quote fuel cs with
      | (s, cs) => (s.map ((if c == '\x00' then '\uFFFD' else c) :: ·), cs)

def string (quote : Char) (cs : List Char) : Token × List Char :=
  match stringBody quote (cs.length + 1) cs with
  | (some s, cs) => (.string (String.ofList s), cs)
  | (none, cs) => (.badString, cs)

def badUrl : List Char → Token × List Char
  | [] => (.badUrl, [])
  | ')' :: cs => (.badUrl, cs)
  | '\\' :: ')' :: cs => badUrl cs
  | '\\' :: '\\' :: cs => badUrl cs
  | _ :: cs => badUrl cs

def isUrlFault (c : Char) : Bool :=
  c == '"' || c == '\'' || c == '(' || c == '\x7f' || c == '\x0b' ||
    (1 ≤ c.toNat && c.toNat ≤ 8) || (0x0e ≤ c.toNat && c.toNat ≤ 0x1f)

def url : Nat → List Char → Token × List Char
  | 0, cs => (.url, cs)
  | _ + 1, [] => (.url, [])
  | fuel + 1, c :: cs =>
    if c == ')' then (.url, cs)
    else if isBlank c then
      match cs.dropWhile isBlank with
      | [] => (.url, [])
      | ')' :: cs => (.url, cs)
      | _ :: cs => badUrl cs
    else if isUrlFault c then badUrl cs
    else if c == '\\' then
      if escapes cs then url fuel (escape cs).2 else badUrl cs
    else url fuel cs

/-- A name, or a function where a bracket follows. `url(` opens an address unless a quote comes
next. -/
def identLike (cs : List Char) : Token × List Char :=
  match nameOf cs with
  | (n, '(' :: cs) =>
    if Text.asciiLower n == "url" then
      match cs.dropWhile isBlank with
      | '"' :: _ | '\'' :: _ => (.function n, cs)
      | rest => url (rest.length + 1) rest
    else (.function n, cs)
  | (n, cs) => (.ident n, cs)

/-- A number whose sign is behind. Whole numbers are held within 32 bits. -/
def numericAfterSign (sign : Option Char) (cs : List Char) : Token × List Char :=
  let digits := cs.takeWhile Char.isDigit
  let n : Int := ofDigits 10 digits
  let whole := some (clamp (if sign = some '-' then -n else n))
  let afterDigits := cs.dropWhile Char.isDigit
  let (whole, rest) :=
    match afterDigits with
    | '.' :: d :: more =>
      if d.isDigit then (none, more.dropWhile Char.isDigit) else (whole, afterDigits)
    | _ => (whole, afterDigits)
  let (whole, rest) :=
    match rest with
    | e :: d :: more =>
      if e == 'e' || e == 'E' then
        if d.isDigit then (none, more.dropWhile Char.isDigit)
        else if (d == '+' || d == '-') && more.head?.any Char.isDigit then
          (none, more.dropWhile Char.isDigit)
        else (whole, rest)
      else (whole, rest)
    | _ => (whole, rest)
  let numeric : Numeric := ⟨sign.isSome, whole⟩
  match rest with
  | '%' :: rest => (.percentage, rest)
  | rest =>
    if startsIdent rest then
      match nameOf rest with
      | (unit, rest) => (.dimension numeric unit, rest)
    else (.number numeric, rest)

def startsNumber : List Char → Bool
  | '.' :: d :: _ => d.isDigit
  | d :: _ => d.isDigit
  | [] => false

def afterComment : List Char → List Char
  | '*' :: '/' :: cs => cs
  | _ :: cs => afterComment cs
  | [] => []

def hash (cs : List Char) : Token × List Char :=
  if startsIdent cs then
    match nameOf cs with
    | (n, cs) => (.idHash n, cs)
  else if cs.head?.any fun c ↦ c.isDigit || c == '-' then
    match nameOf cs with
    | (n, cs) => (.hash n, cs)
  else (.delim '#', cs)

def beforeEquals (c : Char) (matcher : Token) : List Char → Token × List Char
  | '=' :: cs => (matcher, cs)
  | cs => (.delim c, cs)

/-- The token that starts with `c`, and the characters after it. Nothing stands for a comment. -/
def token (c : Char) (cs : List Char) : Option Token × List Char :=
  let one (t : Token) : Option Token × List Char := (some t, cs)
  let of (r : Token × List Char) : Option Token × List Char := (some r.1, r.2)
  if isBlank c then (some .blank, cs.dropWhile isBlank)
  else if c == '"' || c == '\'' then of (string c cs)
  else if c == '#' then of (hash cs)
  else if c == '$' then of (beforeEquals c .suffixMatch cs)
  else if c == '*' then of (beforeEquals c .substringMatch cs)
  else if c == '^' then of (beforeEquals c .prefixMatch cs)
  else if c == '|' then of (beforeEquals c .dashMatch cs)
  else if c == '~' then of (beforeEquals c .includeMatch cs)
  else if c == '(' then one .parenOpen
  else if c == ')' then one .parenClose
  else if c == '[' then one .squareOpen
  else if c == ']' then one .squareClose
  else if c == '\x7b' then one .curlyOpen
  else if c == '\x7d' then one .curlyClose
  else if c == ',' then one .comma
  else if c == ':' then one .colon
  else if c == ';' then one .semicolon
  else if c == '+' then
    if startsNumber cs then of (numericAfterSign (some c) cs) else one (.delim c)
  else if c == '-' then
    if startsNumber cs then of (numericAfterSign (some c) cs)
    else
      match cs with
      | '-' :: '>' :: cs => (some .commentClose, cs)
      | _ => if startsIdent (c :: cs) then of (identLike (c :: cs)) else one (.delim c)
  else if startsNumber (c :: cs) then of (numericAfterSign none (c :: cs))
  else if c == '/' then
    match cs with
    | '*' :: cs => (none, afterComment cs)
    | _ => one (.delim c)
  else if c == '<' then
    match cs with
    | '!' :: '-' :: '-' :: cs => (some .commentOpen, cs)
    | _ => one (.delim c)
  else if c == '@' then
    if startsIdent cs then
      match nameOf cs with
      | (n, cs) => (some (.atKeyword n), cs)
    else one (.delim c)
  else if startsIdent (c :: cs) then of (identLike (c :: cs))
  else one (.delim c)

def tokensFrom : Nat → List Char → List Token
  | 0, _ | _, [] => []
  | fuel + 1, c :: cs =>
    match token c cs with
    | (t, cs) => t.toList ++ tokensFrom fuel cs

end Lexer

def tokens (s : String) : List Token :=
  Lexer.tokensFrom s.toList.length s.toList

def components (s : String) : List Component := nest (tokens s)

end PageOutline.Css
