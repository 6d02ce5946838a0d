namespace PageOutline.Css

/-- A control character is written as its code in hexadecimal and a space. -/
def quotedChar (c : Char) : List Char :=
  if c == '"' then ['\\', '"']
  else if c == '\\' then ['\\', '\\']
  else if c == '\x00' then ['\uFFFD']
  else if c.toNat < 0x20 || c == '\x7f' then '\\' :: Nat.toDigits 16 c.toNat ++ [' ']
  else [c]

def quote (s : String) : String :=
  String.ofList ('"' :: s.toList.flatMap quotedChar ++ ['"'])

end PageOutline.Css
