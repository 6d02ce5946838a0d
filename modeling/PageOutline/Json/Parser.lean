import PageOutline.Json.Value
import PageOutline.Text.Ascii
import PageOutline.Decimal.Layout

namespace PageOutline.Json

open Text (isHexDigit ofDigits hexValue charOfCode)

/-- Which members of a value are read. -/
inductive Reading where
  /-- All of them, at every depth. -/
  | whole
  /-- Of an object the listed members, each in its way. Anything but an object is read whole. -/
  | members (known : List (String × Reading))
  /-- Likewise, and the other members whole. -/
  | choice (known : List (String × Reading))

namespace Parser

def isSpace (c : Char) : Bool := c == ' ' || c == '\n' || c == '\t' || c == '\r'

def skipSpace (cs : List Char) : List Char := cs.dropWhile isSpace

def faultAt : List Char → JsonFault
  | [] => .unfinished
  | _ :: _ => .malformed

def word : List Char → List Char → Except JsonFault (List Char)
  | [], cs => .ok cs
  | w :: ws, c :: cs => if c = w then word ws cs else .error .malformed
  | _ :: _, [] => .error .unfinished

/-- Four hexadecimal digits. The text ends too early where less than four bytes are left. -/
def hexQuad : List Char → Except JsonFault (Nat × List Char)
  | a :: b :: c :: d :: cs =>
    if [a, b, c, d].all isHexDigit then .ok (ofDigits 16 [a, b, c, d], cs)
    else .error .malformed
  | cs => .error (if (String.ofList cs).utf8ByteSize < 4 then .unfinished else .malformed)

/-- The character of a `\u` escape whose digits come next, or nothing for half a surrogate pair. -/
def unicodeEscape (cs : List Char) : Except JsonFault (Option Char × List Char) := do
  let (high, cs) ← hexQuad cs
  if 0xdc00 ≤ high ∧ high ≤ 0xdfff then return (none, cs)
  if ¬(0xd800 ≤ high ∧ high ≤ 0xdbff) then return (some (charOfCode high), cs)
  match cs with
  | [] | ['\\'] => .error .unfinished
  | '\\' :: 'u' :: rest =>
    let (low, after) ← hexQuad rest
    if 0xdc00 ≤ low ∧ low ≤ 0xdfff then
      return (some (charOfCode (0x10000 + (high - 0xd800) * 0x400 + (low - 0xdc00))), after)
    else return (none, cs)
  | _ => return (none, cs)

def simpleEscape? (c : Char) : Option Char :=
  if c == '"' || c == '\\' || c == '/' then some c
  else if c == 'b' then some '\x08'
  else if c == 'f' then some '\x0c'
  else if c == 'n' then some '\n'
  else if c == 'r' then some '\r'
  else if c == 't' then some '\t'
  else none

def stringBody (strict : Bool) : Nat → List Char → Except JsonFault (List Char × List Char)
  | 0, cs => .error (faultAt cs)
  | _ + 1, [] => .error .unfinished
  | fuel + 1, c :: cs =>
    if c = '"' then .ok ([], cs)
    else if c = '\\' then
      match cs with
      | [] => .error .unfinished
      | 'u' :: cs => do
        let (found, cs) ← unicodeEscape cs
        match found with
        | some d => do
          let (s, cs) ← stringBody strict fuel cs
          return (d :: s, cs)
        | none => if strict then .error .malformed else stringBody strict fuel cs
      | e :: cs =>
        match simpleEscape? e with
        | some d => do
          let (s, cs) ← stringBody strict fuel cs
          return (d :: s, cs)
        | none => .error .malformed
    else if c.toNat < 0x20 then .error .malformed
    else do
      let (s, cs) ← stringBody strict fuel cs
      return (c :: s, cs)

def string (strict : Bool) (limit : Nat) (cs : List Char) :
    Except JsonFault (String × List Char) := do
  let (s, cs) ← stringBody strict limit cs
  return (String.ofList s, cs)

def integerBound : Nat := 18446744073709551616

def negativeBound : Nat := 9223372036854775808

/-- Adds digits to `n` as long as the result stays below the bound of integers: the result, how many
were added, and how many were not. -/
def addDigits (n : Nat) : List Char → Nat × Nat × Nat
  | [] => (n, 0, 0)
  | d :: ds =>
    let m := 10 * n + hexValue d
    if m < integerBound then
      match addDigits m ds with
      | (k, added, left) => (k, added + 1, left)
    else (n, 0, ds.length + 1)

structure NumberText where
  negative : Bool
  digits : List Char
  decimals : Option (List Char)
  exponent : Option Int

/-- The number a text stands for. Digits past `2 ^ 64` only count as places. A text without
decimals and exponent is an integer where it fits, `-0` excepted. -/
def NumberText.value? (t : NumberText) : Option JsonNumber :=
  match addDigits 0 t.digits with
  | (n, _, left) =>
    if t.decimals.isNone && t.exponent.isNone && left == 0 && (!t.negative || n != 0)
        && (!t.negative || n ≤ negativeBound) then
      some (.int (if t.negative then -n else n))
    else
      match addDigits n (t.decimals.getD []) with
      | (n, added, _) =>
        (Decimal.ofParts t.negative n (t.exponent.getD 0 + left - added)).map .float

def digits1 (cs : List Char) : Except JsonFault (List Char × List Char) :=
  match cs.takeWhile Char.isDigit with
  | [] => .error (faultAt cs)
  | ds => .ok (ds, cs.dropWhile Char.isDigit)

/-- The digits before the point: a zero stands alone. -/
def wholeDigits : List Char → Except JsonFault (List Char × List Char)
  | '0' :: c :: cs => if c.isDigit then .error .malformed else .ok (['0'], c :: cs)
  | cs => digits1 cs

def exponentPart : List Char → Except JsonFault (Option Int × List Char)
  | c :: cs =>
    if c = 'e' ∨ c = 'E' then
      match cs with
      | '+' :: cs => do
        let (ds, cs) ← digits1 cs
        return (some (ofDigits 10 ds : Nat), cs)
      | '-' :: cs => do
        let (ds, cs) ← digits1 cs
        return (some (-(ofDigits 10 ds : Nat)), cs)
      | cs => do
        let (ds, cs) ← digits1 cs
        return (some (ofDigits 10 ds : Nat), cs)
    else .ok (none, c :: cs)
  | [] => .ok (none, [])

def numberText (cs : List Char) : Except JsonFault (NumberText × List Char) := do
  let (negative, cs) := match cs with
    | '-' :: cs => (true, cs)
    | cs => (false, cs)
  let (digits, cs) ← wholeDigits cs
  let (decimals, cs) ← match cs with
    | '.' :: cs => do
      let (ds, cs) ← digits1 cs
      pure (some ds, cs)
    | cs => pure (none, cs)
  let (exponent, cs) ← exponentPart cs
  return (⟨negative, digits, decimals, exponent⟩, cs)

def number (strict : Bool) (cs : List Char) : Except JsonFault (Json × List Char) := do
  let (text, cs) ← numberText cs
  match text.value? with
  | some n => return (.number n, cs)
  | none => if strict then .error .malformed else return (.null, cs)

def items (item : List Char → Except JsonFault (Json × List Char)) :
    Nat → List Char → Except JsonFault (List Json × List Char)
  | 0, cs => .error (faultAt cs)
  | fuel + 1, cs => do
    let (v, cs) ← item cs
    match skipSpace cs with
    | ',' :: cs =>
      match skipSpace cs with
      | ']' :: _ => .error .malformed
      | cs => do
        let (vs, cs) ← items item fuel cs
        return (v :: vs, cs)
    | ']' :: cs => return ([v], cs)
    | cs => .error (faultAt cs)

/-- The members of an object up to its end, the first of which comes next. A member is given as
nothing where it is passed over. -/
def objectMembers (strict : Bool) (limit : Nat)
    (member : String → List Char → Except JsonFault (Option Json × List Char)) :
    Nat → List Char → Except JsonFault (List (String × Json) × List Char)
  | 0, cs => .error (faultAt cs)
  | fuel + 1, cs => do
    let (key, cs) ← match cs with
      | '"' :: cs => string strict limit cs
      | cs => .error (faultAt cs)
    let cs ← match skipSpace cs with
      | ':' :: cs => pure (skipSpace cs)
      | cs => .error (faultAt cs)
    let (v, cs) ← member key cs
    let here := v.toList.map (key, ·)
    match skipSpace cs with
    | ',' :: cs => do
      let (ms, cs) ← objectMembers strict limit member fuel (skipSpace cs)
      return (here ++ ms, cs)
    | '\x7d' :: cs => return (here, cs)
    | cs => .error (faultAt cs)

def scalar (strict : Bool) (limit : Nat) : List Char → Except JsonFault (Json × List Char)
  | [] => .error .unfinished
  | c :: cs =>
    if c = 'n' then do return (.null, ← word ['u', 'l', 'l'] cs)
    else if c = 't' then do return (.bool true, ← word ['r', 'u', 'e'] cs)
    else if c = 'f' then do return (.bool false, ← word ['a', 'l', 's', 'e'] cs)
    else if c = '"' then do
      let (s, cs) ← string strict limit cs
      return (.string s, cs)
    else if c = '-' ∨ c.isDigit then number strict (c :: cs)
    else .error .malformed

/-- A value that nests at most `levels` deep and is read whole. The `limit` is more than the length of
the text. -/
def value (strict : Bool) (limit : Nat) : Nat → List Char → Except JsonFault (Json × List Char)
  | 0, cs => scalar strict limit cs
  | levels + 1, cs =>
    match cs with
    | '[' :: cs =>
      match skipSpace cs with
      | ']' :: cs => .ok (.array [], cs)
      | cs => do
        let (vs, cs) ← items (fun cs ↦ value strict limit levels (skipSpace cs)) limit cs
        return (.array vs, cs)
    | '\x7b' :: cs =>
      match skipSpace cs with
      | '\x7d' :: cs => .ok (.object [], cs)
      | cs => do
        let (ms, cs) ← objectMembers strict limit
          (fun _ cs ↦ do
            let (v, cs) ← value strict limit levels cs
            return (some v, cs))
          limit cs
        return (.object ms, cs)
    | cs => scalar strict limit cs

def skip (limit : Nat) (cs : List Char) : Except JsonFault (Option Json × List Char) := do
  let (_, cs) ← value false limit limit cs
  return (none, cs)

def membersOf (limit : Nat) (known : List (String × Reading))
    (listed : Reading → List Char → Except JsonFault (Json × List Char))
    (rest : List Char → Except JsonFault (Option Json × List Char)) (cs : List Char) :
    Except JsonFault (Json × List Char) :=
  match skipSpace cs with
  | '\x7d' :: cs => .ok (.object [], cs)
  | cs => do
    let (ms, cs) ← objectMembers true limit
      (fun key cs ↦
        match known.lookup key with
        | none => rest cs
        | some reading => do
          let (v, cs) ← listed reading cs
          return (some v, cs))
      limit cs
    return (.object ms, cs)

def read (limit : Nat) : Nat → Reading → List Char → Except JsonFault (Json × List Char)
  | levels + 1, .members known, '\x7b' :: cs =>
    membersOf limit known (read limit levels) (skip limit) cs
  | levels + 1, .choice known, '\x7b' :: cs =>
    membersOf limit known (read limit levels)
      (fun cs ↦ do
        let (v, cs) ← value true limit levels cs
        return (some v, cs)) cs
  | levels, _, cs => value true limit levels cs

end Parser

def maxDepth : Nat := 127

def parse (text : String) (reading : Reading) : Except JsonFault Json := do
  let (v, cs) ← Parser.read (text.length + 1) maxDepth reading (Parser.skipSpace text.toList)
  match Parser.skipSpace cs with
  | [] => return v
  | _ :: _ => throw .malformed

end PageOutline.Json
