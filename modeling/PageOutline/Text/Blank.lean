import PageOutline.Text.Runs

namespace PageOutline.Text

/-- The property White_Space. -/
def isBlank (c : Char) : Bool :=
  let n := c.toNat
  (0x09 ≤ n && n ≤ 0x0d) || n == 0x20 || n == 0x85 || n == 0xa0 || n == 0x1680 ||
    (0x2000 ≤ n && n ≤ 0x200a) || n == 0x2028 || n == 0x2029 || n == 0x202f || n == 0x205f ||
    n == 0x3000

/-- Every run of blanks becomes one space, and none stays at the ends. -/
def collapseBlanks (s : String) : String :=
  String.ofList (trim isBlank (replaceRuns isBlank ' ' s.toList))

def isAllBlank (s : String) : Bool :=
  s.toList.all isBlank

end PageOutline.Text
