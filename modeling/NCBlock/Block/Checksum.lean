import NCBlock.Block.Basic
import NCBlock.Checksum.Digest

/-!
The checksum of a block: computed from its line, stored in it, and compared. A digest that the
caller brings is reset first, so what it was fed before does not matter.
-/

namespace NCBlock.Block

variable {σ : Type}

/-- The first byte of the digest of a block's line, or zero if the digest has no bytes; and the
state that the digest is left in. -/
def digest (d : Digest σ) (b : Block) (s : σ) : UInt32 × σ :=
  let s := (d.write b.line.utf8 (d.reset s)).2
  (((d.sum s).headD 0).toUInt32, s)

def updateWith (d : Digest σ) (b : Block) (s : σ) : Block × σ :=
  ({ b with checksum := some (b.digest d s).1 }, (b.digest d s).2)

/-- Whether the stored checksum is the computed one. Without a stored one the digest is not used. -/
def verifyWith (d : Digest σ) (b : Block) (s : σ) : Except Error Bool × σ :=
  match b.checksum with
  | none => (.error (.missingChecksum b.fullLine), s)
  | some stored => (.ok (stored = (b.digest d s).1), (b.digest d s).2)

def computedChecksum (b : Block) : UInt32 := (b.digest .xor 0).1

def update (b : Block) : Block := (b.updateWith .xor 0).1

def verify (b : Block) : Except Error Bool := (b.verifyWith .xor 0).1

def strip (b : Block) : Block := { b with checksum := none }

/-- A comment starts with a semicolon and stays on its line. -/
def isComment (t : Text) : Bool := t.head? = some ';' && !t.any fun c => c = '\n' || c = '\r'

/-- Accepts a block with a proper comment and, if one is stored, the right checksum. -/
def validated (b : Block) : Except Error Block :=
  match b.comment.filter (!isComment ·), b.checksum.filter (· ≠ b.computedChecksum) with
  | some comment, _ => .error (.invalidComment comment)
  | none, some stored => .error (.checksumMismatch stored b.computedChecksum)
  | none, none => .ok b

theorem computedChecksum_eq (b : Block) :
    b.computedChecksum = (xorSum b.line.utf8).toUInt32 := rfl

@[simp] theorem line_strip (b : Block) : b.strip.line = b.line := rfl

end NCBlock.Block
