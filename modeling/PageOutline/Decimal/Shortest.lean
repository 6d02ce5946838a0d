namespace PageOutline.Decimal

/-- A finite double without its sign, as `mantissa * 2 ^ (exponent - 1074)`, and whether the
doubles below it lie closer together than those above. -/
structure Magnitude where
  mantissa : Nat
  exponent : Nat
  atBinadeStart : Bool

def leadingBit : Nat := 4503599627370496

def Magnitude.ofBits (bits : Nat) : Magnitude :=
  let fraction := bits % leadingBit
  let field := bits / leadingBit % 2048
  if field = 0 then ⟨fraction, 0, false⟩
  else ⟨leadingBit + fraction, field - 1, fraction = 0 ∧ 1 < field⟩

/-- Digits `d` and a power `k`, for the number `d * 10 ^ k`. -/
structure Digits where
  digits : Nat
  power : Int

structure Ratio where
  numerator : Nat
  denominator : Nat

/-- The double's value in quarters of its last place, so that the ends of its rounding interval are
whole: the value, the lower end and the upper end share one denominator. -/
def Magnitude.quarters (x : Magnitude) (n : Nat) : Ratio :=
  ⟨n * Nat.pow 2 x.exponent, Nat.pow 2 1076⟩

def Ratio.scale (r : Ratio) (k : Int) : Ratio :=
  if 0 ≤ k then ⟨r.numerator * Nat.pow 10 k.toNat, r.denominator⟩
  else ⟨r.numerator, r.denominator * Nat.pow 10 (-k).toNat⟩

/-- The exponent of the first digit of a positive ratio between `10 ^ (-350)` and `10 ^ 350`. -/
def Ratio.leadingPower (r : Ratio) : Int :=
  (Nat.toDigits 10 (r.numerator * Nat.pow 10 350 / r.denominator)).length - 351

/-- The shortest decimal with at most `count + fuel` digits that lies in the rounding interval,
trying `count` digits first. The ends belong to it iff the mantissa is even. -/
def Magnitude.search (x : Magnitude) : Nat → Nat → Digits
  | 0, count => ⟨x.mantissa, count⟩
  | fuel + 1, count =>
    let value := x.quarters (4 * x.mantissa)
    let k := value.leadingPower - (count - 1 : Int)
    let at_ (n : Nat) : Ratio := (x.quarters n).scale (-k)
    let scaled := at_ (4 * x.mantissa)
    let low := at_ (4 * x.mantissa - if x.atBinadeStart then 1 else 2)
    let high := at_ (4 * x.mantissa + 2)
    let even := x.mantissa % 2 = 0
    let inside (d : Nat) : Bool :=
      let above := d * low.denominator
      let below := d * high.denominator
      if even then low.numerator ≤ above && below ≤ high.numerator
      else low.numerator < above && below < high.numerator
    let floor := scaled.numerator / scaled.denominator
    let remainder := scaled.numerator % scaled.denominator
    let upFirst := 2 * remainder > scaled.denominator ∨
      (2 * remainder = scaled.denominator ∧ floor % 2 = 1)
    let first := if upFirst then floor + 1 else floor
    let second := if upFirst then floor else floor + 1
    if inside first then ⟨first, k⟩
    else if inside second then ⟨second, k⟩
    else x.search fuel (count + 1)

def Digits.strip : Nat → Digits → Digits
  | 0, d => d
  | fuel + 1, d =>
    if d.digits ≠ 0 ∧ d.digits % 10 = 0 then strip fuel ⟨d.digits / 10, d.power + 1⟩ else d

/-- The shortest decimal that reads back as `x`, without zeros at its end. -/
def shortest (x : Magnitude) : Digits :=
  if x.mantissa = 0 then ⟨0, 0⟩ else (x.search 17 1).strip 20

end PageOutline.Decimal
