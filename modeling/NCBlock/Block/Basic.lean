import NCBlock.Gcode.Basic

/-!
Blocks: a command with its parameters, and the optional sections around them. In the JSON form a
section that is absent is left out.
-/

namespace NCBlock

structure Block where
  lineNumber : Option UInt32
  command : Gcode
  parameters : List Gcode
  checksum : Option UInt32
  comment : Option Text
deriving DecidableEq

namespace Block

/-- The first parameter with a given word. -/
def parameter? (b : Block) (w : Word) : Option Gcode := b.parameters.find? (·.word = w)

def lineNumberText (b : Block) : Option Text := b.lineNumber.map fun n => (Gcode.lineNumber n).text

def checksumText (b : Block) : Option Text := b.checksum.map fun n => (Gcode.checksum n).text

def parametersText (b : Block) : Text := Text.spaced (b.parameters.map Gcode.text)

/-- Line number, command and parameters, which are what a checksum covers. -/
def coreTexts (b : Block) : List Text :=
  b.lineNumberText.toList ++ b.command.text :: b.parameters.map Gcode.text

def line (b : Block) : Text := Text.spaced b.coreTexts

def lineWithChecksum (b : Block) : Text := Text.spaced (b.coreTexts ++ b.checksumText.toList)

def fullLine (b : Block) : Text :=
  match b.comment with
  | none => b.lineWithChecksum
  | some comment => b.lineWithChecksum ++ ' ' :: comment

/-- Equality of blocks as values, with floats compared by value. -/
def sameValue (b c : Block) : Bool :=
  b.lineNumber = c.lineNumber && b.command.sameValue c.command &&
    b.parameters.length = c.parameters.length &&
    (b.parameters.zip c.parameters).all (fun (p, q) => p.sameValue q) &&
    b.checksum = c.checksum && b.comment = c.comment

/-- A member that is there only if its value is. -/
def jsonMember (name : Text) : Option Json → List (Text × Json)
  | some value => [(name, value)]
  | none => []

def jsonNumber (n : UInt32) : Json := .number (Text.ofNat n.toNat)

def json (b : Block) : Json :=
  .object
    (jsonMember "line_number".toList (b.lineNumber.map jsonNumber) ++
      [("command".toList, b.command.json),
        ("parameters".toList, .array (b.parameters.map Gcode.json))] ++
      jsonMember "checksum".toList (b.checksum.map jsonNumber) ++
      jsonMember "comment".toList (b.comment.map .string))

end Block

end NCBlock
