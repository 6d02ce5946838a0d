import PageOutline.Url.Percent
import PageOutline.Text.Runs

namespace PageOutline.Url

open Text (ofDigits isHexDigit)

def splitAt (mark : Char) : List Char → List (List Char)
  | [] => [[]]
  | c :: r =>
    match splitAt mark r with
    | [] => [[c]]
    | piece :: pieces => if c = mark then [] :: piece :: pieces else (c :: piece) :: pieces

def numberForm : List Char → Nat × List Char
  | '0' :: 'x' :: r | '0' :: 'X' :: r => (16, r)
  | '0' :: c :: r => (8, c :: r)
  | cs => (10, cs)

def isDigitOf (base : Nat) (c : Char) : Bool :=
  if base = 16 then isHexDigit c else c.isDigit && c.toNat - 48 < base

/-- A number in an address: decimal, octal behind `0`, or hexadecimal behind `0x`. -/
def addressNumber? : List Char → Option Nat
  | [] => none
  | cs =>
    match numberForm cs with
    | (base, digits) => if digits.all (isDigitOf base) then some (ofDigits base digits) else none

def labels (cs : List Char) : List (List Char) :=
  match (splitAt '.' cs).reverse with
  | [] :: label :: rest => (label :: rest).reverse
  | all => all.reverse

/-- A host whose last piece is a number is an address, or no host. -/
def endsInNumber (cs : List Char) : Bool :=
  match (labels cs).getLast? with
  | none | some [] => false
  | some last => last.all Char.isDigit || (addressNumber? last).isSome

/-- Whether the pieces are an address of version 4. The last number fills the bytes that are left. -/
def isAddress4 (cs : List Char) : Bool :=
  let pieces := labels cs
  match pieces.mapM addressNumber? with
  | none => false
  | some numbers =>
    numbers.length ≤ 4 && (numbers.dropLast.all (· ≤ 255)) &&
      (numbers.getLast?.getD 0) < Nat.pow 256 (5 - numbers.length)

def isDecimalByte (cs : List Char) : Bool :=
  !cs.isEmpty && cs.all Char.isDigit && ofDigits 10 cs ≤ 255 &&
    (cs.length = 1 || cs.head? != some '0')

/-- How many of the eight groups a piece of an address stands for. Only the last may be of version 4. -/
def groupCount? (isLast : Bool) (piece : List Char) : Option Nat :=
  if 1 ≤ piece.length ∧ piece.length ≤ 4 ∧ piece.all isHexDigit then some 1
  else if isLast then
    let bytes := splitAt '.' piece
    if bytes.length = 4 ∧ bytes.all isDecimalByte then some 2 else none
  else none

def groupsOf? : List (List Char) → Option Nat
  | [] => some 0
  | [piece] => groupCount? true piece
  | piece :: rest => do return (← groupCount? false piece) + (← groupsOf? rest)

def splitGap : List Char → Option (List Char × List Char)
  | [] => none
  | ':' :: ':' :: r => some ([], r)
  | c :: r => (splitGap r).map fun (left, right) ↦ (c :: left, right)

def pieces (cs : List Char) : List (List Char) := if cs.isEmpty then [] else splitAt ':' cs

/-- Whether a text is an address of version 6. A gap stands for one group at least, and nothing of
version 4 stands in front of it. -/
def isAddress6 (cs : List Char) : Bool :=
  match splitGap cs with
  | none => groupsOf? (pieces cs) == some 8
  | some (left, right) =>
    (pieces left).all (fun piece ↦ groupCount? false piece == some 1) &&
      (groupsOf? (pieces right)).any (fun n ↦ (pieces left).length + n ≤ 7)

/-- Characters that no domain holds. Replacement characters stand for bytes that are no text. -/
def isBarredFromDomain (c : Char) : Bool :=
  c.toNat ≤ 0x20 || c.toNat = 0x7F || c == '\uFFFD' ||
    ['#', '/', ':', '<', '>', '?', '@', '[', '\\', ']', '^', '|', '%'].contains c

def isBracketed (cs : List Char) : Bool :=
  match cs.reverse with
  | ']' :: r => isAddress6 r.reverse
  | _ => false

def isHost : List Char → Bool
  | '[' :: r => isBracketed r
  | cs =>
    match textOfBytes? (decodeBytes cs) with
    | none => false
    | some domain =>
      let cs := domain.toList
      !cs.isEmpty && !cs.any isBarredFromDomain && (!endsInNumber cs || isAddress4 cs)

def isOpaqueHost : List Char → Bool
  | '[' :: r => isBracketed r
  | cs =>
    !cs.any fun c ↦
      ['\x00', '\t', '\n', '\r', ' ', '#', '/', ':', '<', '>', '?', '@', '[', '\\', ']', '^',
        '|'].contains c

end PageOutline.Url
