import PageOutline.Browser.Tabs

namespace PageOutline

inductive RoteReply where
  | value (v : Option Json)
  | failure (reason : String)
  deriving Inhabited

inductive RoteNavigation where
  | arrives
  /-- The page is there, but waiting for it fails. -/
  | hangs
  | refused (reason : String)
  deriving Inhabited

structure RoteTab where
  url : String
  replies : List RoteReply
  navigations : List RoteNavigation
  hangs : Bool
  deriving Inhabited

inductive Start where
  | launched (order : LaunchOrder)
  | connected (options : ConnectionOptions)
  deriving DecidableEq, Repr, Inhabited

structure RoteBrowser where
  tabs : Array RoteTab
  /-- Tabs that are there to be opened. -/
  closed : List RoteTab
  launchError : Option String
  start : Option Start
  /-- The scripts of the tabs, the latest first. -/
  scripts : List (Nat × String)
  deriving Inhabited

namespace RoteBrowser

def ofTabs (tabs : List RoteTab) (launchError : Option String) : RoteBrowser :=
  ⟨#[], tabs, launchError, none, []⟩

def setTab (b : RoteBrowser) (tab : Nat) (t : RoteTab) : RoteBrowser :=
  { b with tabs := b.tabs.setIfInBounds tab t }

def launch (order : LaunchOrder) : Call RoteBrowser Unit := fun b ↦
  (match b.launchError with
    | some reason => .error reason
    | none => .ok (), { b with start := some (.launched order) })

def connect (options : ConnectionOptions) : Call RoteBrowser Unit := fun b ↦
  (.ok (), { b with start := some (.connected options), tabs := b.closed.toArray, closed := [] })

def newTab : Call RoteBrowser Unit := fun b ↦
  match b.closed with
  | [] => (.error "no tab left", b)
  | t :: ts => (.ok (), { b with tabs := b.tabs.push t, closed := ts })

def nextReply (t : RoteTab) : RoteReply × RoteTab :=
  match t.replies with
  | [] => (.failure "no reply left", t)
  | reply :: replies => (reply, { t with replies })

def evaluate (tab : Nat) (script : String) : Call RoteBrowser (Option Json) := fun b ↦
  match nextReply (b.tabs.getD tab default) with
  | (reply, t) =>
    (match reply with
      | .value v => .ok v
      | .failure reason => .error ("Method call error -32000: " ++ reason),
      { b.setTab tab t with scripts := (tab, script) :: b.scripts })

def navigate (tab : Nat) (url : String) : Call RoteBrowser Unit := fun b ↦
  let t := b.tabs.getD tab default
  let moved := { t with navigations := t.navigations.tail }
  match t.navigations.head?.getD .arrives with
  | .arrives => (.ok (), b.setTab tab { moved with url, hangs := false })
  | .hangs => (.ok (), b.setTab tab { moved with url, hangs := true })
  | .refused reason => (.error ("Navigate failed: " ++ reason), b.setTab tab moved)

def awaitNavigation (tab : Nat) : Call RoteBrowser Unit := fun b ↦
  if (b.tabs.getD tab default).hangs then (.error "The event waited for never came", b)
  else (.ok (), b)

instance : Browser RoteBrowser where
  launch := launch
  connect := connect
  newTab := newTab
  tabCount b := b.tabs.size
  url b tab := (b.tabs.getD tab default).url
  evaluate := evaluate
  navigate := navigate
  awaitNavigation := awaitNavigation

end RoteBrowser

end PageOutline
