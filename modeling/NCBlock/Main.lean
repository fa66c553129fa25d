import NCBlock.Tool.Run

/-!
The tool itself. Every file that the arguments can lead to is read first; all else is pure.
-/

open NCBlock

/-- Nothing if there is no file at a path, else the text of the file if it has one. -/
def readEntry (path : Text) : IO (Option (Option Text)) := do
  try
    let bytes ← IO.FS.readBinFile (String.ofList path)
    return some (Text.ofUtf8? bytes.toList)
  catch e =>
    match e with
    | .permissionDenied .. => return some none
    | _ => return none

/-- The directory that holds the configuration of the user. -/
def userDirectory : IO (Option Text) := do
  match ← IO.getEnv "XDG_CONFIG_HOME", ← IO.getEnv "HOME" with
  | some directory, home =>
    if directory.startsWith "/" then return some directory.toList
    else return home.map fun h => (h ++ "/.config").toList
  | none, home => return home.map fun h => (h ++ "/.config").toList

def filesAt (paths : List Text) : IO Files := do
  let entries ← paths.mapM fun path => do return (path, ← readEntry path)
  return {
    isFile := fun path => (entries.lookup path).join.isSome
    read := fun path => (entries.lookup path).join.join }

def complain (message : Text) : IO Unit := IO.eprintln ("Error: " ++ String.ofList message)

def main (arguments : List String) : IO UInt32 := do
  match Arguments.read (arguments.map String.toList) with
  | .error .version => do
    IO.print (String.ofList Arguments.versionText)
    return 0
  | .error .help => do
    IO.println (String.ofList UsageError.help.message)
    return 0
  | .error .helpForNothing => do
    IO.eprintln (String.ofList UsageError.helpForNothing.message)
    return 2
  | .error e => do
    complain e.message
    return 2
  | .ok arguments => do
    let user ← userDirectory
    let files ← filesAt
      (arguments.config.toList ++ FileSettings.locations user ++ arguments.command.paths)
    match Config.ofArguments files user arguments with
    | .error e => do
      complain e.message
      return 1
    | .ok config => do
      let outcome := arguments.command.run files config
      IO.print (String.ofList outcome.output)
      match outcome.result with
      | .ok found => return if found then 0 else 1
      | .error e => do
        complain e.message
        return 1
