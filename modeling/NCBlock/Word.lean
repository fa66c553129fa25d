import NCBlock.Error

/-!
Words: the letters that open a token. `N` introduces a line number and `*` a checksum; both are
reserved for these two sections.
-/

namespace NCBlock

/-- The letters that are words. -/
def alphabet : Text :=
  ['G', 'M', 'T', 'S', 'P', 'X', 'Y', 'Z', 'U', 'V', 'W', 'I', 'J', 'D', 'H', 'F', 'R', 'Q', 'E',
   'N', '*']

structure Word where
  letter : Char
  letter_mem : letter ∈ alphabet
deriving DecidableEq

namespace Word

def lineNumber : Word := ⟨'N', by decide⟩

def checksum : Word := ⟨'*', by decide⟩

def byte (w : Word) : UInt8 := w.letter.toUInt8

def isReserved (w : Word) : Bool := w = lineNumber || w = checksum

def text (w : Word) : Text := [w.letter]

def ofByte (b : UInt8) : Except Error Word :=
  if h : Char.ofUInt8 b ∈ alphabet then .ok ⟨Char.ofUInt8 b, h⟩ else .error (.invalidWord b)

/-- The first byte of a character in UTF-8. -/
def leadByte (c : Char) : UInt8 := (String.utf8EncodeChar c).headD 0

/-- A character outside the alphabet is reported by its first byte. -/
def ofChar (c : Char) : Except Error Word :=
  if h : c ∈ alphabet then .ok ⟨c, h⟩ else .error (.invalidWord (leadByte c))

end Word

end NCBlock
