namespace PageOutline.Cli

inductive Stop where
  | help
  | version
  | misuse
  deriving DecidableEq, Repr, Inhabited

inductive ValueForm where
  | absent
  | text
  /-- The name of a file, which is not empty. -/
  | fileName
  deriving DecidableEq, Repr, Inhabited

structure OptionForm where
  name : String
  value : ValueForm
  short : Option Char := none
  deriving DecidableEq, Repr, Inhabited

/-- Options with their values. One without a value has the empty text. -/
abbrev Given := List (String × String)

namespace Given

def has (given : Given) (name : String) : Bool := (given.lookup name).isSome

def add (given : Given) (form : OptionForm) (value : String) : Except Stop Given :=
  if given.has form.name then .error .misuse
  else if form.value = .fileName ∧ value = "" then .error .misuse
  else .ok (given ++ [(form.name, value)])

end Given

inductive Shape where
  /-- Two hyphens: no options come after it. -/
  | finish
  | long (name : String) (value : Option String)
  | short (letters : List Char)
  | plain (text : String)
  deriving DecidableEq, Repr, Inhabited

def longShape (cs : List Char) : Shape :=
  let name := cs.takeWhile (· ≠ '=')
  match cs.dropWhile (· ≠ '=') with
  | [] => .long (String.ofList name) none
  | _ :: value => .long (String.ofList name) (some (String.ofList value))

def shapeOf (arg : String) : Shape :=
  match arg.toList with
  | ['-', '-'] => .finish
  | '-' :: '-' :: cs => longShape cs
  | '-' :: c :: cs => .short (c :: cs)
  | _ => .plain arg

/-- Options by their letters. Everything behind the letter for help is left unread. -/
def addLetters (forms : List OptionForm) : List Char → Given → Except Stop Given
  | [], given => .ok given
  | c :: cs, given =>
    if c = 'h' then .error .help
    else
      match forms.find? (·.short == some c) with
      | none => .error .misuse
      | some form => do addLetters forms cs (← given.add form "")

/-- Reads options up to the end. A pending option still lacks its value. -/
def readOptions (forms : List OptionForm) :
    Option OptionForm → List String → Given → Except Stop Given
  | none, [], given => .ok given
  | some _, [], _ => .error .misuse
  | some form, arg :: args, given =>
    match shapeOf arg with
    | .plain value => do readOptions forms none args (← given.add form value)
    | _ => .error .misuse
  | none, arg :: args, given =>
    match shapeOf arg with
    | .plain _ => .error .misuse
    | .finish => if args = [] then .ok given else .error .misuse
    | .short letters => do readOptions forms none args (← addLetters forms letters given)
    | .long name value =>
      match forms.find? (·.name == name), value with
      | none, none => .error (if name = "help" then .help else .misuse)
      | none, some _ => .error .misuse
      | some form, some value =>
        if form.value = .absent then .error .misuse
        else do readOptions forms none args (← given.add form value)
      | some form, none =>
        if form.value = .absent then do readOptions forms none args (← given.add form "")
        else readOptions forms (some form) args given

end PageOutline.Cli
