import NCBlock.Block.Checksum
import NCBlock.Block.Text
import NCBlock.Document.Basic

/-!
Writing a document anew: every block is read and rendered, and all other lines are copied. The first
line that is no block ends the work.
-/

namespace NCBlock

/-- What happens to the checksum of a block that is written anew. -/
inductive ChecksumMode
  | keep
  | update
  | strip
deriving DecidableEq, Repr

def ChecksumMode.apply : ChecksumMode → Block → Block
  | .keep, b => b
  | .update, b => b.update
  | .strip, b => b.strip

/-- The line at which the work ended, and why. -/
structure LineError where
  line : Nat
  cause : Error
deriving DecidableEq

def LineError.message (e : LineError) : Text :=
  "line ".toList ++ Text.ofNat e.line ++ ": ".toList ++ e.cause.message

namespace Document

def formatLine (format : Text) (mode : ChecksumMode) (line : Text) : Except Error Text :=
  if isPassthrough line then .ok line
  else (Block.parse line).map fun b => (mode.apply b).render format

def formatLines (format : Text) (mode : ChecksumMode) : Nat → List Text → Except LineError Text
  | _, [] => .ok []
  | number, line :: rest =>
    match formatLine format mode line with
    | .error e => .error ⟨number, e⟩
    | .ok written =>
      (formatLines format mode (number + 1) rest).map fun more => written ++ '\n' :: more

def format (format : Text) (mode : ChecksumMode) (document : Text) : Except LineError Text :=
  formatLines format mode 1 (lines document)

end Document

end NCBlock
