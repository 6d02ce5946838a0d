namespace PageOutline

structure LaunchOptions where
  headless : Bool := true
  windowWidth : Nat := 1280
  windowHeight : Nat := 720
  /-- The program to run, if not the one that is found. -/
  chromePath : Option String := none
  /-- The directory of the profile, if it is to be kept. -/
  userDataDir : Option String := none
  sandbox : Bool := true
  deriving DecidableEq, Repr, Inhabited

structure ConnectionOptions where
  wsUrl : String
  /-- In milliseconds. -/
  timeout : Nat := 30000
  deriving DecidableEq, Repr, Inhabited

/-- What a browser is launched with: the options, and what keeps pages from noticing that they are
driven. -/
structure LaunchOrder where
  options : LaunchOptions
  args : List String := ["--disable-blink-features=AutomationControlled"]
  ignoredDefaultArgs : List String := ["--enable-automation"]
  idleSeconds : Nat := 60 * 60
  deriving DecidableEq, Repr, Inhabited

end PageOutline
