import PageOutline.Json.Value
import PageOutline.Decimal.Layout

namespace PageOutline.Json

def hexDigit (n : Nat) : Char := Nat.digitChar n

def escapeChar (c : Char) : List Char :=
  if c == '"' then ['\\', '"']
  else if c == '\\' then ['\\', '\\']
  else if c == '\x08' then ['\\', 'b']
  else if c == '\t' then ['\\', 't']
  else if c == '\n' then ['\\', 'n']
  else if c == '\x0c' then ['\\', 'f']
  else if c == '\r' then ['\\', 'r']
  else if c.toNat < 0x20 then
    ['\\', 'u', '0', '0', hexDigit (c.toNat / 16), hexDigit (c.toNat % 16)]
  else [c]

def quoteChars (s : List Char) : List Char :=
  '"' :: s.flatMap escapeChar ++ ['"']

def quote (s : String) : String := String.ofList (quoteChars s.toList)

def numberChars : JsonNumber → List Char
  | .int n => (toString n).toList
  | .float x => if x.isFinite then (Decimal.write x).toList else ['n', 'u', 'l', 'l']

/-- What stands between the parts of a value: nothing, or line breaks and indentation. -/
inductive Style where
  | compact
  | pretty
  deriving DecidableEq

def Style.lineBreak : Style → Nat → List Char
  | .compact, _ => []
  | .pretty, depth => '\n' :: List.replicate (2 * depth) ' '

def Style.colon : Style → List Char
  | .compact => [':']
  | .pretty => [':', ' ']

mutual

def chars (style : Style) (depth : Nat) : Json → List Char
  | .null => ['n', 'u', 'l', 'l']
  | .bool true => ['t', 'r', 'u', 'e']
  | .bool false => ['f', 'a', 'l', 's', 'e']
  | .number n => numberChars n
  | .string s => quoteChars s.toList
  | .array [] => ['[', ']']
  | .array (v :: vs) =>
    '[' :: style.lineBreak (depth + 1) ++ chars style (depth + 1) v ++
      itemsChars style (depth + 1) vs ++ style.lineBreak depth ++ [']']
  | .object [] => ['\x7b', '\x7d']
  | .object ((k, v) :: ms) =>
    '\x7b' :: style.lineBreak (depth + 1) ++ quoteChars k.toList ++ style.colon ++
      chars style (depth + 1) v ++ membersChars style (depth + 1) ms ++
      style.lineBreak depth ++ ['\x7d']

def itemsChars (style : Style) (depth : Nat) : List Json → List Char
  | [] => []
  | v :: vs => ',' :: style.lineBreak depth ++ chars style depth v ++ itemsChars style depth vs

def membersChars (style : Style) (depth : Nat) : List (String × Json) → List Char
  | [] => []
  | (k, v) :: ms =>
    ',' :: style.lineBreak depth ++ quoteChars k.toList ++ style.colon ++ chars style depth v ++
      membersChars style depth ms

end

def compress (v : Json) : String := String.ofList (v.chars .compact 0)

def pretty (v : Json) : String := String.ofList (v.chars .pretty 0)

end PageOutline.Json
