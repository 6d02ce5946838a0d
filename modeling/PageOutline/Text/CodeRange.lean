namespace PageOutline.Text

structure CodeRange where
  first : Nat
  last : Nat

def CodeRange.contains (range : CodeRange) (n : Nat) : Bool :=
  range.first ≤ n && n ≤ range.last

end PageOutline.Text
