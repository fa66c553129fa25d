import NCBlock.Address.Basic
import NCBlock.Json
import NCBlock.Word

/-!
Gcodes: a word alone, or a word with an address; and their JSON form.
-/

namespace NCBlock

inductive Gcode
  | bare (word : Word)
  | addressed (word : Word) (address : Address)
deriving DecidableEq

namespace Gcode

def word : Gcode → Word
  | .bare w => w
  | .addressed w _ => w

def address? : Gcode → Option Address
  | .bare _ => none
  | .addressed _ a => some a

def text : Gcode → Text
  | .bare w => w.text
  | .addressed w a => w.text ++ a.text

def lineNumber (value : UInt32) : Gcode := .addressed .lineNumber (.uint32 value)

def checksum (value : UInt32) : Gcode := .addressed .checksum (.uint32 value)

def sameValue : Gcode → Gcode → Bool
  | .addressed w a, .addressed v b => w = v && a.sameValue b
  | g, h => g = h

end Gcode

def Word.json (w : Word) : Json := .string w.text

/-- Floats from one millionth up to below ten trillion are written without exponent. -/
def Address.jsonFloatFormat : FloatFormat := ⟨.even, some (-6), some 12⟩

def Address.jsonFloat (v : Binary32) : Json :=
  if v.isFinite then .number (v.write jsonFloatFormat) else .null

def Address.jsonValue : Address → Json
  | .int32 value => .number (Text.ofInt value.toInt)
  | .uint32 value => .number (Text.ofNat value.toNat)
  | .float32 value => jsonFloat value
  | .string value => .string value.raw

def Address.json (a : Address) : Json :=
  .object [("type".toList, .string a.kind.text), ("value".toList, a.jsonValue)]

def Gcode.json : Gcode → Json
  | .bare w => .object [("kind".toList, .string "unaddressed".toList), ("word".toList, w.json)]
  | .addressed w a =>
    .object [("kind".toList, .string "addressed".toList), ("word".toList, w.json),
      ("address".toList, a.json)]

end NCBlock
