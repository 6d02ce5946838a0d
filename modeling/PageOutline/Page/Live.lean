import PageOutline.Page.Query

namespace PageOutline

/-- What can be asked about a page. -/
inductive Question where
  /-- The document element. -/
  | root
  /-- The elements below a node, or its children, that match a selector, in document order. -/
  | query (context : NodeId) (selector : String) (direct : Bool)
  | tag (node : NodeId)
  | text (node : NodeId)
  | attr (node : NodeId) (name : String)
  | parent (node : NodeId)
  | box (node : NodeId)
  | viewport
  /-- The current value of a form control. -/
  | value (node : NodeId)
  | checked (node : NodeId)
  | markup (node : NodeId)
  /-- The whole page as a document of its own. -/
  | document

@[reducible] def Question.Answer : Question → Type
  | .root => NodeId
  | .query _ _ _ => List NodeId
  | .tag _ | .text _ | .markup _ => String
  | .attr _ _ | .value _ => Option String
  | .parent _ => Option NodeId
  | .box _ => Option Box
  | .viewport => Box
  | .checked _ => Bool
  | .document => Document

/-- A computation on a page. What it has done to the page stays when it fails. -/
abbrev Access (σ : Type) := ExceptT Failure (StateM σ)

def attempt {σ α : Type} (x : Access σ α) : Access σ (Except Failure α) :=
  ExceptT.lift x.run

class LivePage (σ : Type) where
  answer : (question : Question) → Access σ question.Answer
  setAttribute : NodeId → String → String → Access σ Unit

/-- A computation that only asks. -/
inductive Inquiry (α : Type) where
  | done (a : α)
  | fail (failure : Failure)
  | ask (question : Question) (next : Except Failure question.Answer → Inquiry α)

namespace Inquiry

variable {α β : Type}

def bind : Inquiry α → (α → Inquiry β) → Inquiry β
  | .done a, f => f a
  | .fail failure, _ => .fail failure
  | .ask question next, f => .ask question fun r ↦ (next r).bind f

instance : Monad Inquiry where
  pure := .done
  bind := bind

def question (q : Question) : Inquiry q.Answer :=
  .ask q fun
    | .ok a => .done a
    | .error failure => .fail failure

def run {σ : Type} [LivePage σ] : Inquiry α → Access σ α
  | .done a => pure a
  | .fail failure => throw failure
  | .ask q next => do (next (← attempt (LivePage.answer q))).run

end Inquiry

namespace LivePage

variable {σ : Type} [LivePage σ]

def root : Access σ NodeId := answer .root

def query (context : NodeId) (selector : String) (direct : Bool) : Access σ (List NodeId) :=
  answer (.query context selector direct)

def queryFirst (context : NodeId) (selector : String) : Access σ (Option NodeId) := do
  return (← query context selector false).head?

def tag (node : NodeId) : Access σ String := answer (.tag node)

def text (node : NodeId) : Access σ String := answer (.text node)

def attr (node : NodeId) (name : String) : Access σ (Option String) := answer (.attr node name)

def parent (node : NodeId) : Access σ (Option NodeId) := answer (.parent node)

def value (node : NodeId) : Access σ (Option String) := answer (.value node)

def checked (node : NodeId) : Access σ Bool := answer (.checked node)

end LivePage

namespace Document

variable {α : Type}

def known (d : Document) (id : NodeId) (f : NodeEntry → α) : Except Failure α :=
  match d.node? id with
  | some n => .ok (f n)
  | none => .error (.unknownNode id)

def attributeOf (d : Document) (id : NodeId) (name : String) : Except Failure (Option String) :=
  d.known id fun _ ↦ (d.attributes id).get? (Text.asciiLower name)

/-- What a document answers. The value of a control is its attribute `value`, and it is checked
where it has an attribute `checked`. -/
def reply (d : Document) : (question : Question) → Except Failure question.Answer
  | .root => .ok root
  | .query context selector direct => d.query context selector direct
  | .tag id =>
    match d.node? id, d.tag? id with
    | none, _ => .error (.unknownNode id)
    | some _, some tag => .ok tag
    | some _, none => .error (.document (.notAnElement id))
  | .text id => d.known id fun _ ↦ d.textContent id
  | .attr id name => d.attributeOf id name
  | .parent id => d.known id NodeEntry.parent
  | .box id => d.known id NodeEntry.box
  | .viewport => .ok d.viewport
  | .value id => d.attributeOf id "value"
  | .checked id => Option.isSome <$> d.attributeOf id "checked"
  | .markup id => d.known id fun _ ↦ d.markup id
  | .document => .ok d

def setAttribute (d : Document) (id : NodeId) (name value : String) : Except Failure Document :=
  match d.node? id with
  | none => .error (.unknownNode id)
  | some ⟨.text _, _, _, _⟩ => .error (.document (.attributeOnText name id))
  | some ⟨.element _ _, _, _, _⟩ => .ok (d.insertAttribute id name value)

instance : LivePage Document where
  answer question := fun d ↦ (d.reply question, d)
  setAttribute id name value := fun d ↦
    match d.setAttribute id name value with
    | .ok e => (.ok (), e)
    | .error failure => (.error failure, d)

end Document

end PageOutline
