import PageOutline.Text.HiddenTable

namespace PageOutline.Text

def describeChar (c : Char) : List Char :=
  if c == '"' then ['\\', '"']
  else if c == '\\' then ['\\', '\\']
  else if c == '\n' then ['\\', 'n']
  else if c == '\r' then ['\\', 'r']
  else if c == '\t' then ['\\', 't']
  else if c == '\x00' then ['\\', '0']
  else if isHidden c then '\\' :: 'u' :: '\x7b' :: Nat.toDigits 16 c.toNat ++ ['\x7d']
  else [c]

def describe (s : String) : String :=
  String.ofList ('"' :: s.toList.flatMap describeChar ++ ['"'])

end PageOutline.Text
