import PageOutline.Browser.Page
import PageOutline.Engine
import PageOutline.Url.Basic

namespace PageOutline.Browser

variable {β α : Type} [Browser β]

def call (cause : String → Failure) (x : Call β α) : Access β α := fun b ↦
  match x b with
  | (.ok a, b) => (.ok a, b)
  | (.error reason, b) => (.error (cause reason), b)

def startWith (options : LaunchOptions) : Access β Unit := do
  call (fun reason ↦ .launch (.notStarted reason)) (launch { options })
  call (fun reason ↦ .launch (.noTab reason)) newTab

def isSocketUrl (text : String) : Bool :=
  (Url.parse? text).any fun url ↦ url.scheme == "ws" || url.scheme == "wss"

def meet (options : ConnectionOptions) : Access β Unit := do
  if isSocketUrl options.wsUrl then call .connection (connect options)
  else throw (.connection "not the URL of a socket")

/-- Expressions that hold of the active tab, the surer one first. -/
def activityChecks : List String :=
  ["document.visibilityState === 'visible' && document.hasFocus()",
   "document.visibilityState === 'visible'"]

/-- The first tab for which an expression holds. Tabs that cannot tell are passed over. -/
def findTab (check : String) : List Nat → β → Option Nat × β
  | [], b => (none, b)
  | tab :: tabs, b =>
    match evaluate tab check b with
    | (.ok (some (.bool true)), b) => (some tab, b)
    | (_, b) => findTab check tabs b

def findActive : List String → β → Option Nat × β
  | [], b => (none, b)
  | check :: checks, b =>
    match findTab check (List.range (tabCount b)) b with
    | (some tab, b) => (some tab, b)
    | (none, b) => findActive checks b

def activeTab : Access β Nat := fun b ↦
  match findActive activityChecks b with
  | (some tab, b) => (.ok tab, b)
  | (none, b) => (.error (.tab .noActiveTab), b)

def goTo (url : String) : Access β Unit := do
  let tab ← activeTab
  call (fun reason ↦ .navigation (.refused url reason)) (navigate tab url)

def waitForNavigation : Access β Unit := do
  let tab ← activeTab
  call (fun reason ↦ .navigation (.timeout reason)) (awaitNavigation tab)

def currentPath : Access β String := do
  let tab ← activeTab
  let text := url (← get) tab
  match Url.parse? text with
  | some parsed => return parsed.path
  | none => throw (.tab (.invalidUrl text))

def openPage : Access β (Nat × NodeId) := do TabPage.attach (← activeTab)

def onPage (tab : Nat) (rootNode : NodeId) (x : Access (TabPage β) α) : Access β α := fun b ↦
  match x ⟨b, tab, rootNode⟩ with
  | (result, page) => (result, page.browser)

def processPage (engine : Engine) (tab : Nat) (rootNode : NodeId) (path : String) (b : β) :
    Except Failure Outline × Engine × β :=
  match engine.processPage (⟨b, tab, rootNode⟩ : TabPage β) path with
  | (result, engine, page) => (result, engine, page.browser)

def extract (engine : Engine) (b : β) : Except Failure Outline × Engine × β :=
  match (do return (← currentPath, ← openPage) : Access β (String × Nat × NodeId)) b with
  | (.error failure, b) => (.error failure, engine, b)
  | (.ok (path, tab, rootNode), b) => processPage engine tab rootNode path b

end PageOutline.Browser
