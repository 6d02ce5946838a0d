import PageOutline.Json.Value

namespace PageOutline

inductive FunctionKind where
  | textExtractor
  | metadataGenerator
  | attributeComputer
  deriving DecidableEq, Repr, Inhabited

inductive DocumentFault where
  | notAnElement (node : Nat)
  | attributeOnText (name : String) (node : Nat)
  | locked (node : Nat)
  | mute (node : Nat)
  | other (reason : String)
  deriving DecidableEq, Repr, Inhabited

inductive ConfigFault where
  | emptySelector
  | zeroSeparator (selector : String)
  | unknownFunction (kind : FunctionKind) (name : String)
  deriving DecidableEq, Repr, Inhabited

inductive TabFault where
  | noActiveTab
  | invalidUrl (url : String)
  deriving DecidableEq, Repr, Inhabited

inductive ScriptFault where
  | notRun (reason : String)
  | noValue
  | notText
  | raised (reason : String)
  deriving DecidableEq, Repr, Inhabited

inductive NavigationFault where
  | refused (url reason : String)
  | timeout (reason : String)
  deriving DecidableEq, Repr, Inhabited

inductive LaunchFault where
  | notStarted (reason : String)
  | noTab (reason : String)
  deriving DecidableEq, Repr, Inhabited

inductive Failure where
  | noMatchingRecipe (path : String)
  /-- A recipe that makes its nodes clickable gave one of them no name. -/
  | unnamedClickable (selector : String) (node : Nat)
  | invalidSelector (selector reason : String)
  | unknownNode (node : Nat)
  | document (fault : DocumentFault)
  | config (fault : ConfigFault)
  | json (fault : JsonFault)
  | fileNotFound
  | launch (fault : LaunchFault)
  | connection (reason : String)
  | navigation (fault : NavigationFault)
  | tab (fault : TabFault)
  | script (fault : ScriptFault)
  deriving DecidableEq, Repr, Inhabited

def nodeLabel (node : Nat) : String := "#" ++ toString node

def FunctionKind.label : FunctionKind → String
  | .textExtractor => "text extractor"
  | .metadataGenerator => "metadata generator"
  | .attributeComputer => "attribute computer"

def DocumentFault.message : DocumentFault → String
  | .notAnElement node => "node " ++ nodeLabel node ++ " is not an element"
  | .attributeOnText name node => "cannot set '" ++ name ++ "' on text node " ++ nodeLabel node
  | .locked node => nodeLabel node ++ " is locked"
  | .mute node => "no text for " ++ nodeLabel node
  | .other reason => reason

def ConfigFault.message : ConfigFault → String
  | .emptySelector => "recipe selector must not be empty"
  | .zeroSeparator selector => "recipe '" ++ selector ++ "': separator_every must be at least 1"
  | .unknownFunction kind name => "unknown " ++ kind.label ++ " '" ++ name ++ "'"

def TabFault.message : TabFault → String
  | .noActiveTab => "No active tab found"
  | .invalidUrl url => "Invalid tab URL '" ++ url ++ "'"

def ScriptFault.message : ScriptFault → String
  | .notRun reason => "Failed to execute script: " ++ reason
  | .noValue => "No value returned from script"
  | .notText => "Failed to get JSON string"
  | .raised reason => reason

def NavigationFault.message : NavigationFault → String
  | .refused url reason => "Failed to navigate to " ++ url ++ ": " ++ reason
  | .timeout reason => "Navigation timeout: " ++ reason

def LaunchFault.message : LaunchFault → String
  | .notStarted reason => reason
  | .noTab reason => "Failed to create tab: " ++ reason

def JsonFault.message : JsonFault → String
  | .malformed => "not a JSON text"
  | .misshapen => "a value of the wrong shape"
  | .unfinished => "the text ends too early"

def Failure.message : Failure → String
  | .noMatchingRecipe path => "No recipe matches path '" ++ path ++ "'"
  | .unnamedClickable selector node =>
    "Recipe contract violated: clickable recipe '" ++ selector ++ "' resolved no name for " ++
      nodeLabel node
  | .invalidSelector selector reason => "Invalid selector '" ++ selector ++ "': " ++ reason
  | .unknownNode node => "Unknown node handle " ++ nodeLabel node
  | .document fault => "Document operation failed: " ++ fault.message
  | .config fault => "Invalid recipe configuration: " ++ fault.message
  | .json fault => "JSON error: " ++ fault.message
  | .fileNotFound => "I/O error: No such file"
  | .launch fault => "Failed to launch browser: " ++ fault.message
  | .connection reason => "Failed to connect to browser: " ++ reason
  | .navigation fault => "Navigation failed: " ++ fault.message
  | .tab fault => "Tab operation failed: " ++ fault.message
  | .script fault => "JavaScript evaluation failed: " ++ fault.message

end PageOutline
