import PageOutline.Text.Ascii

namespace PageOutline.Url

open Text (hexValue isHexDigit)

def bytesOf (c : Char) : List Nat :=
  (String.singleton c).toUTF8.toList.map UInt8.toNat

def upperHexDigit (n : Nat) : Char := (Nat.digitChar n).toUpper

def encodeByte (n : Nat) : List Char := ['%', upperHexDigit (n / 16), upperHexDigit (n % 16)]

/-- Encodes a character that is in a set. All characters outside ASCII and all controls are. -/
def encodeChar (inSet : Char → Bool) (c : Char) : List Char :=
  if c.toNat < 0x20 || 0x7E < c.toNat || inSet c then (bytesOf c).flatMap encodeByte else [c]

def encode (inSet : Char → Bool) (cs : List Char) : List Char := cs.flatMap (encodeChar inSet)

def isPathEncoded (c : Char) : Bool :=
  [' ', '"', '<', '>', '\x60', '#', '?', '\x7b', '\x7d'].contains c

def decodeBytes : List Char → List Nat
  | [] => []
  | '%' :: a :: b :: r =>
    if isHexDigit a && isHexDigit b then (16 * hexValue a + hexValue b) :: decodeBytes r
    else bytesOf '%' ++ decodeBytes (a :: b :: r)
  | c :: r => bytesOf c ++ decodeBytes r

def textOfBytes? (bytes : List Nat) : Option String :=
  String.fromUTF8? ⟨(bytes.map UInt8.ofNat).toArray⟩

end PageOutline.Url
