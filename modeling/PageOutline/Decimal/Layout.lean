import PageOutline.Decimal.Shortest

namespace PageOutline.Decimal

/-- Where a number is written positionally: from `10 ^ leastPower` up to, and not including,
`10 ^ greatestPower`. -/
structure Layout where
  leastPower : Int
  greatestPower : Int

/-- Numbers from `0.00001` up to `10 ^ 16` are written out, with at least one decimal. -/
def jsonLayout : Layout := ⟨-5, 16⟩

def zeros (n : Nat) : List Char := List.replicate n '0'

/-- The digits of a positive decimal with a point or an exponent. An exponent carries its sign. -/
def Layout.write (layout : Layout) (d : Digits) : List Char :=
  let digits := Nat.toDigits 10 d.digits
  let lead : Int := d.power + digits.length - 1
  if layout.leastPower ≤ lead ∧ lead < layout.greatestPower then
    if 0 ≤ d.power then digits ++ zeros d.power.toNat ++ ['.', '0']
    else if 0 ≤ lead then
      digits.take (lead.toNat + 1) ++ '.' :: digits.drop (lead.toNat + 1)
    else '0' :: '.' :: zeros ((-lead).toNat - 1) ++ digits
  else
    let fraction := if digits.length = 1 then [] else '.' :: digits.tail
    let sign := if lead < 0 then '-' else '+'
    digits.take 1 ++ fraction ++ 'e' :: sign :: Nat.toDigits 10 lead.natAbs

def signBit : Nat := 9223372036854775808

def write (x : Float) : String :=
  let bits := x.toBits.toNat
  let sign := if signBit ≤ bits then ['-'] else []
  let magnitude := Magnitude.ofBits (bits % signBit)
  let body :=
    if magnitude.mantissa = 0 then ['0', '.', '0'] else jsonLayout.write (shortest magnitude)
  String.ofList (sign ++ body)

def ofNat (n : Nat) : Float := Float.ofScientific n false 0

def tenPower (n : Nat) : Float := Float.ofScientific 1 false n

/-- Scales `x` by `10 ^ k`: one multiplication or division, and steps of 308 in front of it where
the power is below what a double holds. Nothing is given where the result leaves the range. -/
def scale : Nat → Float → Int → Option Float
  | 0, x, _ => some x
  | fuel + 1, x, k =>
    if k.natAbs ≤ 308 then
      if 0 ≤ k then
        let y := x * tenPower k.toNat
        if y.isInf then none else some y
      else some (x / tenPower k.natAbs)
    else if x == 0 then some x
    else if 0 ≤ k then none
    else scale fuel (x / tenPower 308) (k + 308)

/-- The double read from `significand * 10 ^ power`: the significand is rounded first, then the
scaled value. -/
def ofParts (negative : Bool) (significand : Nat) (power : Int) : Option Float :=
  (scale (power.natAbs / 308 + 2) (ofNat significand) power).map fun x ↦
    if negative then -x else x

end PageOutline.Decimal
