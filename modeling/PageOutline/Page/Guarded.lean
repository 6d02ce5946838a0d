import PageOutline.Page.Live

namespace PageOutline

structure Guarded where
  document : Document
  typed : List (NodeId × String)
  checked : List (NodeId × Bool)
  locked : List NodeId
  mute : List NodeId
  deriving Inhabited

namespace Guarded

def ofDocument (d : Document) : Guarded := ⟨d, [], [], [], []⟩

def reply (g : Guarded) : (question : Question) → Except Failure question.Answer
  | .text id =>
    if g.mute.contains id then .error (.document (.mute id)) else g.document.reply (.text id)
  | .value id =>
    match g.typed.lookup id with
    | some s => .ok (some s)
    | none => g.document.reply (.value id)
  | .checked id =>
    match g.checked.lookup id with
    | some b => .ok b
    | none => g.document.reply (.checked id)
  | question => g.document.reply question

def setAttribute (g : Guarded) (id : NodeId) (name value : String) : Except Failure Guarded :=
  if g.locked.contains id then .error (.document (.locked id))
  else (g.document.setAttribute id name value).map fun d ↦ { g with document := d }

instance : LivePage Guarded where
  answer question := fun g ↦ (g.reply question, g)
  setAttribute id name value := fun g ↦
    match g.setAttribute id name value with
    | .ok h => (.ok (), h)
    | .error failure => (.error failure, g)

end Guarded

end PageOutline
