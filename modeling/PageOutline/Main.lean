import PageOutline.Browser.Scripted
import PageOutline.Cli.Run

open PageOutline

def readFile? (name : String) : IO (Option String) := do
  try
    return some (← IO.FS.readFile name)
  catch _ =>
    return none

def readFiles (names : List String) : IO (List (String × String)) := do
  let found ← names.mapM fun name ↦ do return (← readFile? name).map (name, ·)
  return found.filterMap id

def main (args : List String) : IO UInt32 := do
  let names := match Cli.Command.ofArguments args with
    | .ok command => command.fileNames
    | .error _ => []
  let files ← readFiles names
  let exit := Cli.respond (fun name ↦ files.lookup name) args (RoteBrowser.ofTabs [] (some "no browser found"))
  IO.print exit.output
  match exit.complaint with
  | some text => IO.eprintln text
  | none => pure ()
  return exit.code.toUInt32
