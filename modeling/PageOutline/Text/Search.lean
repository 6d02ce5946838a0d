namespace PageOutline.Text

variable {α : Type} [BEq α]

def occursIn (part : List α) : List α → Bool
  | [] => part.isEmpty
  | c :: cs => part.isPrefixOf (c :: cs) || occursIn part cs

/-- Puts `replacement` in the place of the first run that equals `part`, where there is one. -/
def replaceFirst (part replacement : List α) : List α → Option (List α)
  | [] => if part.isEmpty then some replacement else none
  | c :: cs =>
    if part.isPrefixOf (c :: cs) then some (replacement ++ (c :: cs).drop part.length)
    else (replaceFirst part replacement cs).map (c :: ·)

end PageOutline.Text
