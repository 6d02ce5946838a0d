import PageOutline.Url.Host

namespace PageOutline

structure Url where
  /-- In lower case. -/
  scheme : String
  path : String
  deriving DecidableEq, Repr, Inhabited

namespace Url

inductive SchemeKind where
  | file
  | special
  | plain
  deriving DecidableEq, Repr, Inhabited

def kindOf (scheme : String) : SchemeKind :=
  if scheme = "file" then .file
  else if ["http", "https", "ws", "wss", "ftp"].contains scheme then .special
  else .plain

def SchemeKind.isSlash (kind : SchemeKind) (c : Char) : Bool :=
  c == '/' || (kind != .plain && c == '\\')

def clean (cs : List Char) : List Char :=
  (Text.trim (fun c ↦ c.toNat ≤ 0x20) cs).filter fun c ↦ c != '\t' && c != '\n' && c != '\r'

def splitScheme : List Char → Option (String × List Char)
  | [] => none
  | c :: r =>
    let inScheme (c : Char) : Bool := Text.isAsciiAlphanumeric c || ['+', '-', '.'].contains c
    match r.dropWhile inScheme with
    | ':' :: rest =>
      if c.isAlpha then
        some (String.ofList ((c :: r.takeWhile inScheme).map Char.toLower), rest)
      else none
    | _ => none

def withoutQuery (cs : List Char) : List Char := cs.takeWhile fun c ↦ c != '?' && c != '#'

def segments (kind : SchemeKind) : List Char → List (List Char)
  | [] => [[]]
  | c :: r =>
    match segments kind r with
    | [] => [[c]]
    | s :: ss => if kind.isSlash c then [] :: s :: ss else (c :: s) :: ss

/-- A dot, where two encoded ones count as well. -/
def dots : List Char → Option Nat
  | [] => some 0
  | '.' :: r => (dots r).map (· + 1)
  | '%' :: '2' :: 'e' :: r | '%' :: '2' :: 'E' :: r => (dots r).map (· + 1)
  | _ => none

def isDriveLetter : List Char → Bool
  | [c, d] => c.isAlpha && (d == ':' || d == '|')
  | _ => false

def stepUp (kind : SchemeKind) : List (List Char) → List (List Char)
  | [] => []
  | [s] => if kind = .file ∧ isDriveLetter s then [s] else []
  | _ :: ss => ss

/-- Goes through segments, where two dots lead upwards and one nowhere. What has been passed comes
last first. -/
def walk (kind : SchemeKind) (passed : List (List Char)) : List (List Char) → List (List Char)
  | [] => passed
  | s :: ss =>
    let isLast := ss.isEmpty
    let endHere (passed : List (List Char)) := if isLast then [] :: passed else passed
    match dots s with
    | some 1 => walk kind (endHere passed) ss
    | some 2 => walk kind (endHere (stepUp kind passed)) ss
    | _ =>
      let s := match kind, s with
        | .file, [c, '|'] => if c.isAlpha then [c, ':'] else s
        | _, s => s
      walk kind (encode isPathEncoded s :: passed) ss

def joinSegments (ss : List (List Char)) : String :=
  String.join (ss.map fun s ↦ "/" ++ String.ofList s)

def pathOf (kind : SchemeKind) (cs : List Char) : String :=
  let passed := (walk kind [] (segments kind cs)).reverse
  match kind with
  | .file =>
    match passed.dropWhile List.isEmpty with
    | [] => "/"
    | ss => joinSegments ss
  | _ => joinSegments passed

/-- The path behind an authority. Where there is none, only special schemes have the root. -/
def pathBehind (kind : SchemeKind) : List Char → String
  | [] => if kind = .plain then "" else "/"
  | c :: r => if kind.isSlash c then pathOf kind r else pathOf kind (c :: r)

def splitAuthority (kind : SchemeKind) (cs : List Char) : List Char × List Char :=
  let inside (c : Char) : Bool := !kind.isSlash c && c != '?' && c != '#'
  (cs.takeWhile inside, cs.dropWhile inside)

def behindUser (cs : List Char) : Option (List Char) :=
  if cs.contains '@' then some ((cs.reverse.takeWhile (· != '@')).reverse) else none

def splitPort : Bool → List Char → List Char × Option (List Char)
  | _, [] => ([], none)
  | inBrackets, c :: r =>
    if c = ':' && !inBrackets then ([], some r)
    else
      match splitPort (c == '[' || (inBrackets && c != ']')) r with
      | (host, port) => (c :: host, port)

def isPort (cs : List Char) : Bool := cs.all Char.isDigit && Text.ofDigits 10 cs ≤ 65535

/-- Whether a text is an authority: a user, a host and a port. A plain URL may have an empty host, but
then nothing else. -/
def isAuthority (kind : SchemeKind) (cs : List Char) : Bool :=
  match splitPort false ((behindUser cs).getD cs) with
  | (host, port) =>
    port.all isPort &&
      if host.isEmpty then kind == .plain && port.isNone && (behindUser cs).isNone
      else if kind = .plain then isOpaqueHost host
      else isHost host

def behindSlashes? (kind : SchemeKind) (cs : List Char) : Option String :=
  match splitAuthority kind cs with
  | (authority, rest) =>
    if isAuthority kind authority then some (pathBehind kind (withoutQuery rest)) else none

/-- The path of a file. Behind two slashes stands a host, unless it is the letter of a drive. -/
def filePath? (cs : List Char) : Option String :=
  match cs with
  | [] => some "/"
  | c :: r =>
    if SchemeKind.file.isSlash c then
      match r with
      | d :: r' =>
        if SchemeKind.file.isSlash d then
          match splitAuthority .file r' with
          | (host, rest) =>
            if isDriveLetter host then some (pathOf .file (withoutQuery r'))
            else if host.isEmpty || isHost host then
              some (pathBehind .file (withoutQuery rest))
            else none
        else some (pathOf .file (withoutQuery r))
      | [] => some "/"
    else some (pathOf .file (withoutQuery cs))

/-- The path of a URL without special scheme. Without a slash in front it is kept as it stands. -/
def plainPath? (cs : List Char) : Option String :=
  match cs with
  | '/' :: '/' :: r => behindSlashes? .plain r
  | '/' :: r => some (pathOf .plain (withoutQuery r))
  | cs => some (String.ofList (encode (fun _ ↦ false) (withoutQuery cs)))

def parse? (text : String) : Option Url := do
  let (scheme, rest) ← splitScheme (clean text.toList)
  let path ← match kindOf scheme with
    | .file => filePath? rest
    | .special => behindSlashes? .special (rest.dropWhile SchemeKind.special.isSlash)
    | .plain => plainPath? rest
  return ⟨scheme, path⟩

end Url

end PageOutline
