import PageOutline.Browser.Script
import PageOutline.Browser.Tabs

namespace PageOutline

inductive ScriptReply (α : Type) where
  | value (a : α)
  | unknownNode (id : NodeId)
  | raised (reason : String)

namespace ScriptReply

variable {α : Type}

def ofJson (f : Json → Except JsonFault α) : Json → Except JsonFault (ScriptReply α)
  | .string _ => .error .misshapen
  | v => v.asChoice fun name content ↦
    match name with
    | "ok" => .value <$> f content
    | "unknown" => .unknownNode <$> content.asNat
    | "err" => .raised <$> content.asString
    | _ => .error .misshapen

def reading (value : Json.Reading) : Json.Reading :=
  .choice [("ok", value), ("unknown", .whole), ("err", .whole)]

def read (fields : Json.Reading) (f : Json → Except JsonFault α) (text : String) :
    Except Failure α :=
  match Json.parse text (reading fields) >>= ofJson f with
  | .error fault => .error (.json fault)
  | .ok (.value a) => .ok a
  | .ok (.unknownNode id) => .error (.unknownNode id)
  | .ok (.raised reason) => .error (.script (.raised reason))

end ScriptReply

structure TabPage (β : Type) where
  browser : β
  tab : Nat
  /-- The document element. -/
  rootNode : NodeId

namespace TabPage

variable {β α : Type} [Browser β]

def evaluate (tab : Nat) (expression : String) (fields : Json.Reading)
    (f : Json → Except JsonFault α) : Access β α := fun b ↦
  match Browser.evaluate tab (Script.frame expression) b with
  | (.error reason, b) => (.error (.script (.notRun reason)), b)
  | (.ok none, b) => (.error (.script .noValue), b)
  | (.ok (some (.string text)), b) => (ScriptReply.read fields f text, b)
  | (.ok (some _), b) => (.error (.script .notText), b)

def attach (tab : Nat) : Access β (Nat × NodeId) := do
  return (tab, ← evaluate tab Script.documentElement .whole Json.asNat)

def documentOfJson (v : Json) : Except JsonFault Document := do
  let fields ← v.fieldsOf ⟨["viewport", "root"], false, .malformed⟩
  let viewport ← Json.field fields "viewport" (Box.ofJson .malformed)
  let root ← Json.field fields "root" Snapshot.ofJson
  return (Document.ofSnapshot root).withViewport viewport

def answerFields : Question → Json.Reading
  | .box _ | .viewport => Box.reading
  | .document => .members [("viewport", Box.reading), ("root", Snapshot.reading)]
  | _ => .whole

def answerOfJson : (question : Question) → Json → Except JsonFault question.Answer
  | .root => Json.asNat
  | .query _ _ _ => Json.asList Json.asNat
  | .tag _ | .text _ | .markup _ => Json.asString
  | .attr _ _ | .value _ => Json.asOption Json.asString
  | .parent _ => Json.asOption Json.asNat
  | .box _ => Json.asOption (Box.ofJson .malformed)
  | .viewport => Box.ofJson .malformed
  | .checked _ => Json.asBool
  | .document => documentOfJson

/-- A page refuses a selector by an error of its own kind. -/
def refusal (selector : String) : Failure → Failure
  | .script (.raised reason) =>
    if "SyntaxError".toList.isPrefixOf reason.toList then .invalidSelector selector reason
    else .script (.raised reason)
  | failure => failure

def ask (tab : Nat) (question : Question) : Access β question.Answer := fun b ↦
  match evaluate tab (Script.ofQuestion question) (answerFields question)
      (answerOfJson question) b with
  | (.ok a, b) => (.ok a, b)
  | (.error failure, b) =>
    match question with
    | .query _ selector _ => (.error (refusal selector failure), b)
    | _ => (.error failure, b)

def onBrowser (x : Access β α) : Access (TabPage β) α := fun page ↦
  match x page.browser with
  | (result, browser) => (result, { page with browser })

/-- The document element is known without a script. -/
def answer (page : TabPage β) : (question : Question) → Except Failure question.Answer × TabPage β
  | .root => (.ok page.rootNode, page)
  | question => onBrowser (ask page.tab question) page

instance : LivePage (TabPage β) where
  answer question := fun page ↦ answer page question
  setAttribute id name value := fun page ↦
    onBrowser (evaluate page.tab (Script.setAttribute id name value) .whole Json.asUnit) page

end TabPage

end PageOutline
