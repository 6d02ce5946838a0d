import PageOutline.Browser.Session
import PageOutline.Cli.Command
import PageOutline.Page.Rendered
import PageOutline.Recipe.Schema

namespace PageOutline.Cli

structure Printing (σ : Type) where
  work : σ
  printed : String

namespace Printing

variable {σ τ α : Type}

def line (text : String) : Access (Printing σ) Unit :=
  modify fun p ↦ { p with printed := p.printed ++ text ++ "\n" }

def onWork (x : Access σ α) : Access (Printing σ) α := fun p ↦
  match x p.work with
  | (result, work) => (result, { p with work })

def onPart (view : σ → τ) (back : τ → σ) (x : Access (Printing τ) α) : Access (Printing σ) α :=
  fun p ↦
    match x ⟨view p.work, p.printed⟩ with
    | (result, q) => (result, ⟨back q.work, q.printed⟩)

end Printing

open Printing

def metaText (found : PageMeta) : String :=
  (Json.object (found.entries.map fun (name, payloads) ↦ (name, .array payloads))).pretty

section Pages

variable {σ : Type} [LivePage σ]

def Extraction.print (x : Extraction) (engine : Engine) (path : String) :
    Access (Printing σ) Unit := fun p ↦
  match engine.processPage p.work path with
  | (.error failure, _, work) => (.error failure, { p with work })
  | (.ok outline, engine, work) =>
    (do
      line (if x.asJson then outline.toText else outline.markup)
      if x.withMeta then line (metaText (← onWork (collectMeta engine.settings)))
      if x.withRegistry then line engine.registry.toText : Access (Printing σ) Unit) { p with work }

def printVisible : Access (Printing σ) Unit := do
  line (← onWork (markVisible {}))

end Pages

abbrev Files := String → Option String

def Files.read (files : Files) (name : String) : Except Failure String :=
  match files name with
  | some text => .ok text
  | none => .error .fileNotFound

section Browsers

variable {β : Type} [Browser β]

def BrowserChoice.goTo (url : String) : BrowserChoice → Access β Unit
  | .launch options => do
    Browser.startWith options
    Browser.goTo url
    Browser.waitForNavigation
  | .connect options => do
    Browser.meet options
    Browser.goTo url
    Browser.waitForNavigation

def onOpenPage (x : Access (Printing (TabPage β)) Unit) : Access (Printing β) Unit := do
  let (tab, rootNode) ← onWork Browser.openPage
  onPart (fun browser ↦ ⟨browser, tab, rootNode⟩) TabPage.browser x

def onDocument (document : Document) (x : Access (Printing Document) Unit) :
    Access (Printing β) Unit := fun p ↦
  match x ⟨document, p.printed⟩ with
  | (result, q) => (result, { p with printed := q.printed })

def loadCatalog (files : Files) (name : String) : Except Failure Engine := do
  Engine.ofText ∅ (← files.read name)

namespace Command

def run (files : Files) : Command → Access (Printing β) Unit
  | .extract (.file name) _ x => do
    let engine ← loadCatalog files x.catalogFile
    let html ← files.read name
    onDocument (Document.ofHtml html) (x.print engine (x.path.getD "/"))
  | .extract (.address url) choice x => do
    let engine ← loadCatalog files x.catalogFile
    onWork (choice.goTo url)
    let path ← match x.path with
      | some path => pure path
      | none => onWork Browser.currentPath
    onOpenPage (x.print engine path)
  | .visible (.file name) _ => do
    let html ← files.read name
    onDocument (Document.ofHtml html) printVisible
  | .visible (.address url) choice => do
    onWork (choice.goTo url)
    onOpenPage printVisible
  | .schema => line CatalogFile.schema.pretty

end Command

structure Exit where
  code : Nat
  output : String
  complaint : Option String
  deriving DecidableEq, Repr, Inhabited

def versionText : String := "dom-recipe 0.1.0\n"

def usage : String :=
  String.intercalate "\n"
    ["Recipe-driven page extraction", "",
     "Usage: dom-recipe <COMMAND>", "",
     "Commands:",
     "  extract  Run one extraction pass and print the output tree",
     "  visible  Print the page with visible interactive elements marked",
     "  schema   Print the JSON schema of catalog files",
     "  help     Print this message or the help of the given subcommand(s)", ""]

def Stop.exit : Stop → Exit
  | .help => ⟨0, usage, none⟩
  | .version => ⟨0, versionText, none⟩
  | .misuse => ⟨2, "", some usage⟩

def respond (files : Files) (args : List String) (browser : β) : Exit :=
  match Command.ofArguments args with
  | .error stop => stop.exit
  | .ok command =>
    match command.run files ⟨browser, ""⟩ with
    | (.ok (), p) => ⟨0, p.printed, none⟩
    | (.error failure, p) => ⟨1, p.printed, some failure.message⟩

end Browsers

end PageOutline.Cli
