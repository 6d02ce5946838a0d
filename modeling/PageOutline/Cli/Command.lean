import PageOutline.Cli.Arguments
import PageOutline.Browser.Options

namespace PageOutline.Cli

inductive Source where
  | file (name : String)
  | address (url : String)
  deriving DecidableEq, Repr, Inhabited

inductive BrowserChoice where
  | launch (options : LaunchOptions)
  | connect (options : ConnectionOptions)
  deriving DecidableEq, Repr, Inhabited

structure Extraction where
  catalogFile : String
  /-- The path by which a recipe is chosen, if not the page's own. -/
  path : Option String
  asJson : Bool
  withMeta : Bool
  withRegistry : Bool
  deriving DecidableEq, Repr, Inhabited

inductive Command where
  /-- Prints the outline of a page. -/
  | extract (source : Source) (browser : BrowserChoice) (extraction : Extraction)
  /-- Prints a page with what is visible of it marked. -/
  | visible (source : Source) (browser : BrowserChoice)
  /-- Prints the schema of catalog files. -/
  | schema
  deriving DecidableEq, Repr, Inhabited

def pageForms : List OptionForm :=
  [{ name := "html", value := .fileName }, { name := "url", value := .text },
   { name := "headed", value := .absent, short := some 'H' },
   { name := "executable-path", value := .fileName }, { name := "ws-endpoint", value := .text },
   { name := "user-data-dir", value := .fileName }]

def extractionForms : List OptionForm :=
  [{ name := "catalog", value := .fileName }, { name := "path", value := .text },
   { name := "json", value := .absent }, { name := "meta", value := .absent },
   { name := "registry", value := .absent }]

def Source.ofGiven (given : Given) : Except Stop Source :=
  match given.lookup "html", given.lookup "url" with
  | some name, none => .ok (.file name)
  | none, some url => .ok (.address url)
  | _, _ => .error .misuse

/-- A browser that runs already goes before one that is to be launched. -/
def BrowserChoice.ofGiven (given : Given) : BrowserChoice :=
  match given.lookup "ws-endpoint" with
  | some wsUrl => .connect { wsUrl }
  | none =>
    .launch
      { headless := !given.has "headed"
        chromePath := given.lookup "executable-path"
        userDataDir := given.lookup "user-data-dir" }

def Extraction.ofGiven (given : Given) : Except Stop Extraction :=
  match given.lookup "catalog" with
  | none => .error .misuse
  | some catalogFile =>
    .ok
      { catalogFile
        path := given.lookup "path"
        asJson := given.has "json"
        withMeta := given.has "meta"
        withRegistry := given.has "registry" }

namespace Command

def commandNames : List String := ["extract", "visible", "schema", "help"]

def helpOn : List String → Stop
  | [] => .help
  | [name] => if commandNames.contains name then .help else .misuse
  | _ => .misuse

def stopOf (arg : String) : Stop :=
  match shapeOf arg with
  | .long "help" none | .short ('h' :: _) => .help
  | .long "version" none | .short ('V' :: _) => .version
  | _ => .misuse

def ofArguments : List String → Except Stop Command
  | "extract" :: args => do
    let given ← readOptions (extractionForms ++ pageForms) none args []
    return .extract (← Source.ofGiven given) (BrowserChoice.ofGiven given)
      (← Extraction.ofGiven given)
  | "visible" :: args => do
    let given ← readOptions pageForms none args []
    return .visible (← Source.ofGiven given) (BrowserChoice.ofGiven given)
  | "schema" :: args => do
    let _ ← readOptions [] none args []
    return .schema
  | "help" :: args => .error (helpOn args)
  | arg :: _ => .error (stopOf arg)
  | [] => .error .misuse

def fileNames : Command → List String
  | .extract (.file name) _ extraction => [extraction.catalogFile, name]
  | .extract (.address _) _ extraction => [extraction.catalogFile]
  | .visible (.file name) _ => [name]
  | .visible (.address _) _ | .schema => []

end Command

end PageOutline.Cli
