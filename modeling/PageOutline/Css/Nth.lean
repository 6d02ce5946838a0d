import PageOutline.Css.Integer
import PageOutline.Css.Token
import PageOutline.Text.Ascii

namespace PageOutline.Css.Nth

open Text (asciiLower ofDigits)

def skipBlank : List Component → List Component
  | .leaf .blank :: cs => skipBlank cs
  | cs => cs

/-- Step and offset, and the components behind them. -/
abbrev Result := Option ((Int × Int) × List Component)

def unsignedOffset (step sign : Int) (cs : List Component) : Result :=
  match skipBlank cs with
  | .leaf (.number ⟨false, some n⟩) :: cs => some ((step, sign * n), cs)
  | _ => none

def offset (step : Int) (cs : List Component) : Result :=
  match skipBlank cs with
  | .leaf (.delim '+') :: cs => unsignedOffset step 1 cs
  | .leaf (.delim '-') :: cs => unsignedOffset step (-1) cs
  | .leaf (.number ⟨true, some n⟩) :: cs => some ((step, n), cs)
  | _ => some ((step, 0), cs)

/-- The offset written into a word, as in `n-3`. -/
def wordOffset? (w : List Char) : Option Int :=
  match w with
  | 'n' :: '-' :: d :: ds =>
    if (d :: ds).all Char.isDigit then some (clamp (-(ofDigits 10 (d :: ds) : Int)))
    else none
  | _ => none

def afterWord (step : Int) (w : List Char) (cs : List Component) : Result :=
  match w with
  | ['n'] => offset step cs
  | ['n', '-'] => unsignedOffset step (-1) cs
  | _ => (wordOffset? w).map fun n ↦ ((step, n), cs)

def lowered (s : String) : List Char := (asciiLower s).toList

def parity? (w : List Char) : Option (Int × Int) :=
  if w = ['e', 'v', 'e', 'n'] then some (2, 0)
  else if w = ['o', 'd', 'd'] then some (2, 1)
  else none

def positiveWord (w : List Char) (cs : List Component) : Result :=
  match parity? w with
  | some r => some (r, cs)
  | none => afterWord 1 w cs

def parse (cs : List Component) : Result :=
  match skipBlank cs with
  | .leaf (.number ⟨_, some n⟩) :: cs => some ((0, n), cs)
  | .leaf (.dimension ⟨_, some n⟩ unit) :: cs => afterWord n (lowered unit) cs
  | .leaf (.ident s) :: cs =>
    match lowered s with
    | '-' :: w => afterWord (-1) w cs
    | w => positiveWord w cs
  | .leaf (.delim '+') :: .leaf (.ident s) :: cs => positiveWord (lowered s) cs
  | _ => none

end PageOutline.Css.Nth
