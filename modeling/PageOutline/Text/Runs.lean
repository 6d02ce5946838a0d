import PageOutline.Text.Ascii

namespace PageOutline.Text

variable (p : Char → Bool)

def splitWord : List Char → List Char × List (List Char)
  | [] => ([], [])
  | c :: r =>
    match splitWord r with
    | (w, ws) => if p c then ([], if w.isEmpty then ws else w :: ws) else (c :: w, ws)

/-- The maximal runs of characters outside `p`, in order. -/
def words (cs : List Char) : List (List Char) :=
  match splitWord p cs with
  | (w, ws) => if w.isEmpty then ws else w :: ws

/-- Each maximal run of characters in `p` becomes one `mark`, written at the end of the run. -/
def replaceRuns (mark : Char) : List Char → List Char
  | [] => []
  | c :: r =>
    if p c then
      if r.head?.any p then replaceRuns mark r else mark :: replaceRuns mark r
    else c :: replaceRuns mark r

/-- Drops the characters in `p` at both ends. -/
def trim (cs : List Char) : List Char :=
  ((cs.dropWhile p).reverse.dropWhile p).reverse

theorem replaceRuns_nil (mark : Char) : replaceRuns p mark [] = [] := rfl

theorem replaceRuns_eq_nil_iff (mark : Char) (cs : List Char) :
    replaceRuns p mark cs = [] ↔ cs = [] := by
  induction cs with
  | nil => simp [replaceRuns]
  | cons c r ih =>
    simp only [replaceRuns]
    split
    · split
      · cases r <;> simp_all
      · simp
    · simp

def asciiWords (s : String) : List String :=
  (words isAsciiBlank s.toList).map String.ofList

end PageOutline.Text
