import NCBlock.Tool.Arguments
import NCBlock.Tool.Files
import NCBlock.Toml.Document

/-!
Configuration in layers. A setting is taken from the command line if it is given there, else from
the configuration file if it is set there, else from the defaults. At most one file is used: the one
that is asked for, or the first that exists of a list of candidates.
-/

namespace NCBlock

/-- Settings of a configuration file. -/
structure FileSettings where
  format : Option Text
  requireChecksum : Option Bool
  mode : Option ChecksumMode
deriving DecidableEq

inductive ConfigError
  | malformedText
  | unreadable (path : Text)
  | malformed (path : Text)
deriving DecidableEq

def ConfigError.message : ConfigError → Text
  | .malformedText => "Failed to parse configuration TOML".toList
  | .unreadable path => "Failed to read config file: ".toList ++ path
  | .malformed path => "Failed to parse config file: ".toList ++ path

namespace FileSettings

def empty : FileSettings := ⟨none, none, none⟩

/-- A mode is named by a string, or by a table whose one member has the name and is itself empty. -/
def mode? : Toml.Value → Option ChecksumMode
  | .string name => ChecksumMode.ofText? name
  | .table _ [(name, .table _ [])] => ChecksumMode.ofText? name
  | .table _ [(name, .array [])] => ChecksumMode.ofText? name
  | _ => none

/-- Puts one member of a document into the settings; a member of another name is refused. -/
def add (s : FileSettings) (name : Text) (v : Toml.Value) : Option FileSettings :=
  if name = "format".toList then
    match v with
    | .string t => some { s with format := some t }
    | _ => none
  else if name = "require_checksum".toList then
    match v with
    | .boolean b => some { s with requireChecksum := some b }
    | _ => none
  else if name = "checksum".toList then (mode? v).map fun m => { s with mode := some m }
  else none

def ofText (document : Text) : Except ConfigError FileSettings :=
  match Toml.read document with
  | none => .error .malformedText
  | some members =>
    match members.foldlM (fun s (name, v) => add s name v) empty with
    | some s => .ok s
    | none => .error .malformedText

def load (files : Files) (path : Text) : Except ConfigError FileSettings :=
  match files.read path with
  | none => .error (.unreadable path)
  | some document => (ofText document).mapError fun _ => .malformed path

/-- The file that is used, with its settings. A file that is asked for must be there; of the
candidates the first that is a file is used, and a fault in it is not passed over. -/
def discover (files : Files) (explicit : Option Text) (candidates : List Text) :
    Except ConfigError (Option (Text × FileSettings)) :=
  match explicit.or (candidates.find? files.isFile) with
  | none => .ok none
  | some path => (load files path).map fun s => some (path, s)

/-- The file of the working directory, and behind it that of the user. -/
def locations (userDirectory : Option Text) : List Text :=
  ".gcode-block.toml".toList ::
    (userDirectory.map (· ++ "/gcode-block/config.toml".toList)).toList

end FileSettings

structure Config where
  format : Text
  requireChecksum : Bool
  mode : ChecksumMode
  logLevel : Text
  source : Option Text
deriving DecidableEq

namespace Command

def givenFormat : Command → Option Text
  | .format _ f _ => f
  | _ => none

def givenMode : Command → Option ChecksumMode
  | .format _ _ m => m
  | _ => none

/-- The flag can only ask for checksums. -/
def givenRequireChecksum : Command → Option Bool
  | .check _ true => some true
  | _ => none

end Command

namespace Config

def layered (arguments : Arguments) (file : Option (Text × FileSettings)) : Config :=
  let settings := (file.map (·.2)).getD .empty
  { format := (arguments.command.givenFormat.or settings.format).getD Block.fullFormat
    requireChecksum :=
      (arguments.command.givenRequireChecksum.or settings.requireChecksum).getD false
    mode := (arguments.command.givenMode.or settings.mode).getD .keep
    logLevel := arguments.logLevel
    source := file.map (·.1) }

def ofArguments (files : Files) (userDirectory : Option Text) (arguments : Arguments) :
    Except ConfigError Config :=
  (FileSettings.discover files arguments.config (FileSettings.locations userDirectory)).map
    (layered arguments)

end Config

end NCBlock
