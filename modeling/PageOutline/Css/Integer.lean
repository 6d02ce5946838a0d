namespace PageOutline.Css

/-- `2 ^ 31`, one more than the greatest integer. -/
def wordBound : Int := 2147483648

/-- The integer nearest to `n`. -/
def clamp (n : Int) : Int :=
  if n < -wordBound then -wordBound else if wordBound ≤ n then wordBound - 1 else n

/-- What a count of `n` has come to, after all overflows. -/
def wrap (n : Nat) : Int := (n : Int).bmod 4294967296

/-- The quotient, rounded towards zero, if there is one within the bounds. -/
def quotient? (n d : Int) : Option Int :=
  if d = 0 ∨ wordBound ≤ n.tdiv d then none else some (n.tdiv d)

end PageOutline.Css
