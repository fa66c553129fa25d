import NCBlock.Block.Basic
import NCBlock.Gcode.Dialect
import NCBlock.Line.Sections
import NCBlock.Token.Scan

/-!
Reading a block from a line, and writing it through a format. A line is read in normal form: its
outer sections are cut off, and the tokens of the region between them go to a dialect in order. The
first gcode is the command. A stored checksum is read but not compared. Blanks of a format separate
sections: they become one space between two written parts, and nothing at the ends or beside a
section that is absent.
-/

namespace NCBlock

namespace Block

variable {σ : Type}

def parseWith (dialect : Dialect σ) (line : Text) (s : σ) : Except Error Block × σ :=
  match Line.sections (Line.normalize line) with
  | .error e => (.error e, s)
  | .ok parts =>
    match tokens parts.region with
    | .error e => (.error e, s)
    | .ok texts =>
      match dialect.ofTokens texts s with
      | (.error e, s) => (.error e, s)
      | (.ok [], s) => (.error (.noCommand parts.region), s)
      | (.ok (command :: parameters), s) =>
        (.ok ⟨parts.lineNumber, command, parameters, parts.checksum, parts.comment⟩, s)

def parse (line : Text) : Except Error Block := (parseWith .stock line ()).1

end Block

inductive Section
  | lineNumber
  | command
  | parameters
  | checksum
  | comment
deriving DecidableEq, Repr

/-- The letter that names a section in a format. -/
def Section.ofLetter? : Char → Option Section
  | 'l' => some .lineNumber
  | 'c' => some .command
  | 'p' => some .parameters
  | 'k' => some .checksum
  | 'm' => some .comment
  | _ => none

/-- The parts of a format. -/
inductive Piece
  | gap
  | char (c : Char)
  | part (s : Section)
deriving DecidableEq, Repr

namespace Piece

def ofChar (c : Char) : Piece := if isBlank c then .gap else .char c

/-- What a percent sign and the character behind it stand for. -/
def ofDirective (c : Char) : List Piece :=
  match Section.ofLetter? c with
  | some s => [.part s]
  | none => if c = '%' then [.char '%'] else [.char '%', ofChar c]

def ofFormat : Text → List Piece
  | [] => []
  | ['%'] => [.char '%']
  | '%' :: c :: rest => ofDirective c ++ ofFormat rest
  | c :: rest => ofChar c :: ofFormat rest

end Piece

/-- The text written so far, and whether a separator is due before the next part. -/
structure Pen where
  text : Text
  gap : Bool

def Pen.write (pen : Pen) (t : Text) : Pen :=
  if t = [] then pen
  else if pen.gap ∧ pen.text ≠ [] then ⟨pen.text ++ ' ' :: t, false⟩
  else ⟨pen.text ++ t, false⟩

namespace Block

/-- Every section, with single spaces between them. -/
def fullFormat : Text := "%l %c %p %k %m".toList

def sectionText (b : Block) : Section → Text
  | .lineNumber => b.lineNumberText.getD []
  | .command => b.command.text
  | .parameters => b.parametersText
  | .checksum => b.checksumText.getD []
  | .comment => b.comment.getD []

def writePiece (b : Block) (pen : Pen) : Piece → Pen
  | .gap => { pen with gap := true }
  | .char c => pen.write [c]
  | .part s => pen.write (b.sectionText s)

def render (b : Block) (format : Text) : Text :=
  ((Piece.ofFormat format).foldl b.writePiece ⟨[], false⟩).text

end Block

end NCBlock
