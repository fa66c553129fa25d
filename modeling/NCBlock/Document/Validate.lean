import NCBlock.Block.Checksum
import NCBlock.Block.Text
import NCBlock.Document.Basic

/-!
Validation of lines and documents. A line that holds no block is silent; any other yields an error
if it is no block or its stored checksum is wrong, and a warning if a checksum is required and
missing.
-/

namespace NCBlock

namespace Block

/-- A wrong checksum, with the computed one as it would stand in the line. -/
def mismatchText (stored : UInt32) (b : Block) : Text :=
  "checksum mismatch: stored *".toList ++ Text.ofNat stored.toNat ++ ", computed ".toList ++
    (Gcode.checksum b.computedChecksum).text

/-- What is said of a block that was read from a line. -/
def diagnostics (requireChecksum : Bool) (line : Nat) (b : Block) : List Diagnostic :=
  match b.checksum with
  | some stored =>
    if stored = b.computedChecksum then [] else [⟨line, b.mismatchText stored, .error⟩]
  | none => if requireChecksum then [⟨line, "block has no checksum".toList, .warning⟩] else []

/-- A validation and a construction word a wrong checksum alike. -/
theorem mismatchText_eq (stored : UInt32) (b : Block) :
    b.mismatchText stored = (Error.checksumMismatch stored b.computedChecksum).message := by
  have hjoin (t u v w : Text) : t ++ u ++ v ++ '*' :: w = t ++ u ++ (v ++ ['*']) ++ w := by simp
  exact hjoin "checksum mismatch: stored *".toList (Text.ofNat stored.toNat) ", computed ".toList
    (Text.ofNat b.computedChecksum.toNat)

end Block

namespace Document

variable {σ : Type}

def validateLineWith (dialect : Dialect σ) (requireChecksum : Bool) (number : Nat) (line : Text)
    (s : σ) : Report × σ :=
  if isPassthrough line then (.empty, s)
  else
    match Block.parseWith dialect line s with
    | (.error e, s) => (⟨[⟨number, e.message, .error⟩], 0⟩, s)
    | (.ok b, s) => (⟨b.diagnostics requireChecksum number, 1⟩, s)

def validateLine (requireChecksum : Bool) (number : Nat) (line : Text) : Report :=
  (validateLineWith .stock requireChecksum number line ()).1

/-- The report of a list of lines, the first of which has the given number. -/
def validateLines (requireChecksum : Bool) : Nat → List Text → Report
  | _, [] => .empty
  | number, line :: rest =>
    (validateLine requireChecksum number line).merge
      (validateLines requireChecksum (number + 1) rest)

def validate (requireChecksum : Bool) (document : Text) : Report :=
  validateLines requireChecksum 1 (lines document)

end Document

end NCBlock
