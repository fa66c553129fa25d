import NCBlock.Document.Format

/-!
The command line. There is a level for the tool itself and one for each of its commands. An option
that takes its value from the next argument is pending until another argument settles it, so that a
fault in it may come to light only after a later one.
-/

namespace NCBlock

/-- What the tool is asked to do. -/
inductive Command
  | parse (line : Text) (json : Bool)
  | check (files : List Text) (requireChecksum : Bool)
  | format (file : Text) (format : Option Text) (mode : Option ChecksumMode)
  | checksum (line : Text)
deriving DecidableEq

structure Arguments where
  config : Option Text
  logLevel : Text
  command : Command
deriving DecidableEq

/-- Why arguments are not carried out. -/
inductive UsageError
  | unknownArgument
  | missingArgument
  | missingCommand
  | unknownCommand
  | invalidValue
  | repeatedArgument
  | unexpectedValue
  | help
  | helpForNothing
  | version
deriving DecidableEq, Repr

/-- What the tool answers when its version is asked for. -/
def Arguments.versionText : Text := "gcode-block 0.1.0\n".toList

def Arguments.usageText : Text :=
  "Usage: gcode-block [--config FILE] [--log-level LEVEL] COMMAND\n".toList ++
  "  parse LINE [--json]\n".toList ++
  "  check FILE... [--require-checksum]\n".toList ++
  "  format FILE [--format FORMAT] [--checksum keep|update|strip]\n".toList ++
  "  checksum LINE".toList

def UsageError.message : UsageError → Text
  | .unknownArgument => "unknown argument".toList
  | .missingArgument => "a required argument is missing".toList
  | .missingCommand => "a command is missing".toList
  | .unknownCommand => "unknown command".toList
  | .invalidValue => "invalid value".toList
  | .repeatedArgument => "an argument is given twice".toList
  | .unexpectedValue => "a flag takes no value".toList
  | .help | .helpForNothing => Arguments.usageText
  | .version => Arguments.versionText

/-- The files that a command reads. -/
def Command.paths : Command → List Text
  | .check files _ => files
  | .format file _ _ => [file]
  | _ => []

def ChecksumMode.ofText? (t : Text) : Option ChecksumMode :=
  if t = "keep".toList then some .keep
  else if t = "update".toList then some .update
  else if t = "strip".toList then some .strip
  else none

namespace CommandLine

inductive Parameter
  | config
  | logLevel
  | json
  | requireChecksum
  | format
  | checksum
  | line
  | file
  | files
  | help
  | version
deriving DecidableEq, Repr

namespace Parameter

def name : Parameter → Text
  | .config => "config".toList
  | .logLevel => "log-level".toList
  | .json => "json".toList
  | .requireChecksum => "require-checksum".toList
  | .format => "format".toList
  | .checksum => "checksum".toList
  | .line => "line".toList
  | .file => "file".toList
  | .files => "files".toList
  | .help => "help".toList
  | .version => "version".toList

def takesValue : Parameter → Bool
  | .json | .requireChecksum | .help | .version => false
  | _ => true

def isRepeatable : Parameter → Bool
  | .files => true
  | _ => false

/-- Paths must not be empty, and a checksum mode must exist. -/
def accepts : Parameter → Text → Bool
  | .config, t | .file, t | .files, t => t ≠ []
  | .checksum, t => (ChecksumMode.ofText? t).isSome
  | _, _ => true

end Parameter

inductive CommandName
  | parse
  | check
  | format
  | checksum
deriving DecidableEq, Repr

/-- What a word stands for where a command is expected. -/
inductive CommandWord
  | command (name : CommandName)
  | help
deriving DecidableEq, Repr

def CommandWord.ofText? (t : Text) : Option CommandWord :=
  if t = "parse".toList then some (.command .parse)
  else if t = "check".toList then some (.command .check)
  else if t = "format".toList then some (.command .format)
  else if t = "checksum".toList then some (.command .checksum)
  else if t = "help".toList then some .help
  else none

/-- What is known at one level: options by name, a parameter for the other arguments, and whether a
command is expected. -/
structure Level where
  options : List Parameter
  positional : Option Parameter
  hasCommands : Bool

def Level.tool : Level := ⟨[.config, .logLevel, .help, .version], none, true⟩

def CommandName.level : CommandName → Level
  | .parse => ⟨[.json, .config, .logLevel, .help], some .line, false⟩
  | .check => ⟨[.requireChecksum, .config, .logLevel, .help], some .files, false⟩
  | .format => ⟨[.format, .checksum, .config, .logLevel, .help], some .file, false⟩
  | .checksum => ⟨[.config, .logLevel, .help], some .line, false⟩

/-- Values settled so far, the parameter that still collects values, and whether a double dash has
ended the options. -/
structure State where
  settled : List (Parameter × List Text)
  pending : Option (Parameter × List Text)
  optionsEnded : Bool

namespace State

def start : State := ⟨[], none, false⟩

def isSettled (s : State) (p : Parameter) : Bool := s.settled.any (·.1 = p)

/-- Every value given for a parameter. -/
def values (s : State) (p : Parameter) : List Text :=
  s.settled.flatMap fun (q, values) => if q = p then values else []

/-- Gives a parameter its values. -/
def settle (s : State) (p : Parameter) (values : List Text) : Except UsageError State :=
  if p.takesValue ∧ values = [] then .error .invalidValue
  else if s.isSettled p ∧ !p.isRepeatable then .error .repeatedArgument
  else if !values.all p.accepts then .error .invalidValue
  else .ok { s with settled := s.settled ++ [(p, values)] }

/-- Settles the pending parameter. -/
def flush (s : State) : Except UsageError State :=
  match s.pending with
  | none => .ok s
  | some (p, values) => { s with pending := none }.settle p values

/-- The next argument is the value of an option. -/
def awaitsValue (s : State) : Bool :=
  match s.pending with
  | some (_, []) => true
  | _ => false

def addPending (s : State) (p : Parameter) (value : Text) : State :=
  match s.pending with
  | some (q, values) =>
    if q = p then { s with pending := some (p, values ++ [value]) }
    else { s with pending := some (p, [value]) }
  | none => { s with pending := some (p, [value]) }

/-- A flag or an option. What follows an equals sign is its value. -/
def takeOption (s : State) (level : Level) (name : Text) (attached : Option Text) :
    Except UsageError State :=
  match level.options.find? (·.name = name), attached with
  | none, _ => .error .unknownArgument
  | some p, some value =>
    if p.takesValue then do (← s.flush).settle p [value] else .error .unexpectedValue
  | some p, none => do
    let s ← s.flush
    if p.takesValue then .ok { s with pending := some (p, []) }
    else if p = .help then .error .help
    else if p = .version then .error .version
    else s.settle p []

/-- A group of flags behind one dash. Those that exist end the work, so only the first counts. -/
def takeShort (s : State) (level : Level) (flag : Char) : Except UsageError State :=
  if flag = 'h' ∧ .help ∈ level.options then s.takeOption level Parameter.help.name none
  else if flag = 'V' ∧ .version ∈ level.options then s.takeOption level Parameter.version.name none
  else .error .unknownArgument

/-- An argument that is neither an option nor the value of one. -/
def takePositional (s : State) (level : Level) (argument : Text) : Except UsageError State :=
  match level.positional with
  | some p =>
    if p.isRepeatable then
      if s.pending.any (·.1 = p) then .ok (s.addPending p argument)
      else do return (← s.flush).addPending p argument
    else if s.isSettled p ∨ s.pending.any (·.1 = p) then .error .unknownArgument
    else do return (← s.flush).addPending p argument
  | none =>
    if s.optionsEnded ∧ (CommandWord.ofText? argument).isSome then .error .unknownArgument
    else .error .unknownCommand

/-- An argument of a level before a double dash, commands apart. -/
def take (s : State) (level : Level) (argument : Text) : Except UsageError State :=
  match argument with
  | ['-', '-'] => .ok { s with optionsEnded := true }
  | '-' :: '-' :: long =>
    match long.dropWhile (· ≠ '=') with
    | '=' :: value => s.takeOption level (long.takeWhile (· ≠ '=')) (some value)
    | _ => s.takeOption level long none
  | '-' :: flag :: _ => s.takeShort level flag
  | _ =>
    match s.pending with
    | some (p, []) => .ok { s with pending := some (p, [argument]) }
    | _ => s.takePositional level argument

end State

/-- Reads the arguments of a level up to a command, whose arguments are left over. -/
def Level.scan (level : Level) :
    List Text → State → Except UsageError (State × Option (CommandWord × List Text))
  | [], s => .ok (s, none)
  | argument :: rest, s =>
    if s.optionsEnded then
      match s.takePositional level argument with
      | .ok s => level.scan rest s
      | .error e => .error e
    else
      match (if level.hasCommands && !s.awaitsValue then CommandWord.ofText? argument
          else none) with
      | some word => .ok (s, some (word, rest))
      | none =>
        match s.take level argument with
        | .ok s => level.scan rest s
        | .error e => .error e

/-- Help can be asked for the tool or for one of its commands. -/
def helpFor : List Text → UsageError
  | [] => .help
  | [topic] => if (CommandWord.ofText? topic).isSome then .help else .unknownCommand
  | _ => .unknownCommand

/-- The command with the values of its level. -/
def CommandName.build (name : CommandName) (s : State) : Except UsageError Command :=
  match name, s.values .line, s.values .files, s.values .file with
  | .parse, line :: _, _, _ => .ok (.parse line (s.isSettled .json))
  | .check, _, file :: files, _ => .ok (.check (file :: files) (s.isSettled .requireChecksum))
  | .format, _, _, file :: _ =>
    .ok (.format file (s.values .format).head?
      ((s.values .checksum).head?.bind ChecksumMode.ofText?))
  | .checksum, line :: _, _, _ => .ok (.checksum line)
  | _, _, _, _ => .error .missingArgument

end CommandLine

open CommandLine in
/-- Reads the arguments behind the name of the tool. Options for all commands may stand before or
behind the command; behind it they count more. -/
def Arguments.read (arguments : List Text) : Except UsageError Arguments := do
  let (outer, command) ← Level.tool.scan arguments .start
  match command with
  | none =>
    let outer ← outer.flush
    if outer.settled = [] then .error .helpForNothing else .error .missingCommand
  | some (.help, topics) => .error (helpFor topics)
  | some (.command name, rest) =>
    let (inner, _) ← name.level.scan rest .start
    let inner ← inner.flush
    let built ← name.build inner
    let outer ← outer.flush
    let option (p : Parameter) : Option Text := (inner.values p ++ outer.values p).head?
    return ⟨option .config, (option .logLevel).getD "warn".toList, built⟩

end NCBlock
