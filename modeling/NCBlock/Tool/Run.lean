import NCBlock.Document.Validate
import NCBlock.Tool.Config

/-!
Carrying out a command. The answer is the text that is written, which may end early, and how the
command ended: whether it found no error, or why it failed.
-/

namespace NCBlock

inductive Failure
  | unreadable (path : Text)
  | line (e : LineError)
  | block (e : Error)
deriving DecidableEq

def Failure.message : Failure → Text
  | .unreadable path => "Failed to read ".toList ++ path
  | .line e => e.message
  | .block e => e.message

structure Outcome where
  output : Text
  result : Except Failure Bool

namespace Outcome

def failed (f : Failure) : Outcome := ⟨[], .error f⟩

def written (output : Text) : Outcome := ⟨output, .ok true⟩

/-- The text written for a block that was read from a line. -/
def ofBlock (parsed : Except Error Block) (write : Block → Text) : Outcome :=
  match parsed with
  | .error e => failed (.block e)
  | .ok b => written (write b ++ ['\n'])

end Outcome

namespace Diagnostic

/-- One record of a check. -/
def record (path : Text) (d : Diagnostic) : Text :=
  path ++ ':' :: Text.ofNat d.line ++ ": ".toList ++ d.severity.text ++ ": ".toList ++ d.message ++
    ['\n']

end Diagnostic

def Report.records (path : Text) (r : Report) : Text := r.diagnostics.flatMap (·.record path)

/-- Checks files in order; the first that cannot be read ends the work. -/
def checkFiles (files : Files) (requireChecksum : Bool) : List Text → Outcome
  | [] => .written []
  | path :: rest =>
    match files.read path with
    | none => .failed (.unreadable path)
    | some document =>
      let report := Document.validate requireChecksum document
      let others := checkFiles files requireChecksum rest
      ⟨report.records path ++ others.output, others.result.map (report.isValid && ·)⟩

def formatFile (files : Files) (config : Config) (path : Text) : Outcome :=
  match files.read path with
  | none => .failed (.unreadable path)
  | some document =>
    match Document.format config.format config.mode document with
    | .error e => .failed (.line e)
    | .ok t => .written t

def Command.run (files : Files) (config : Config) : Command → Outcome
  | .parse line json =>
    .ofBlock (Block.parse line) fun b => if json then b.json.pretty 0 else b.fullLine
  | .check paths _ => checkFiles files config.requireChecksum paths
  | .format path _ _ => formatFile files config path
  | .checksum line => .ofBlock (Block.parse line) fun b => b.update.fullLine

end NCBlock
