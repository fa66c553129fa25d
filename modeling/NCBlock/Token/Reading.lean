import NCBlock.Number.Binary32
import NCBlock.Token.Span
import NCBlock.Word

/-!
How a token is read: its first byte is the word, and what follows is a literal whose kind is decided
by its form. Whether the word exists and a string is well quoted is left to whoever makes the gcode.
-/

namespace NCBlock

inductive Literal
  | absent
  | uint32 (value : UInt32)
  | int32 (value : Int32)
  | float32 (value : Binary32)
  | string (raw : Text)
deriving DecidableEq

structure Reading where
  word : UInt8
  literal : Literal
deriving DecidableEq

/-- The finite value nearest to a number in positional notation. -/
def Binary32.ofText? (t : Text) : Option Binary32 :=
  match Decimal.ofText? t with
  | some d => if (ofDecimal d).isFinite then some (ofDecimal d) else none
  | none => none

namespace Literal

/-- A number with a point is a float, any other an integer. -/
def ofNumber? (t : Text) : Option Literal :=
  if '.' ∈ t then (Binary32.ofText? t).map .float32 else (Text.toInt32? t).map .int32

/-- The literal behind a letter. Behind a reserved word it is a count. -/
def ofText? (letter : Char) (t : Text) : Option Literal :=
  if t = [] then some .absent
  else if letter = 'N' ∨ letter = '*' then (Text.toUInt32? t).map .uint32
  else if '"' ∈ t then some (.string t)
  else if isNumber t then ofNumber? t
  else none

end Literal

/-- Reads one token. A word that does not exist is reported before a literal of no known form, but
not before a number that does not fit. -/
def Reading.ofToken : Text → Except Error Reading
  | [] => .error (.unrecognizedToken [])
  | letter :: t =>
    let word := Word.leadByte letter
    if 0x80 ≤ letter.toNat then .error (.invalidWord word)
    else
      match Literal.ofText? letter t with
      | some literal => .ok ⟨word, literal⟩
      | none =>
        match Word.ofByte word with
        | .error e => .error (if isNumber t then .unrecognizedToken (letter :: t) else e)
        | .ok _ => .error (.unrecognizedToken (letter :: t))

end NCBlock
