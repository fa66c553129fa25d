import NCBlock.Text.Numeral

/-!
What can be wrong with a token, a line or a block, and how each fault is worded.
-/

namespace NCBlock

/-- The kinds of literal that a word can carry. -/
inductive AddressKind
  | int32
  | uint32
  | float32
  | string
deriving DecidableEq, Repr

def AddressKind.text : AddressKind → Text
  | .int32 => "int32".toList
  | .uint32 => "uint32".toList
  | .float32 => "float32".toList
  | .string => "string".toList

/-- Why a text is no quoted string. -/
inductive StringFault
  | tooShort
  | controlCharacter
  | notQuoted
  | unescapedQuote
deriving DecidableEq, Repr

def StringFault.text : StringFault → Text
  | .tooShort => "too short".toList
  | .controlCharacter => "contains control characters".toList
  | .notQuoted => "not enclosed in quotes".toList
  | .unescapedQuote => "contains an unescaped quote".toList

inductive Error
  | invalidWord (byte : UInt8)
  | invalidString (raw : Text) (fault : StringFault)
  | unrecognizedToken (token : Text)
  | undefinedSymbols (residue : Text)
  | noCommand (region : Text)
  | missingChecksum (block : Text)
  | kindMismatch (expected found : AddressKind)
  | invalidComment (comment : Text)
  | checksumMismatch (stored computed : UInt32)
deriving DecidableEq

/-- Two hexadecimal digits, with capitals. -/
def hexByte (b : UInt8) : Text :=
  [(b.toNat / 16).digitChar.toUpper, (b.toNat % 16).digitChar.toUpper]

/-- A byte in hexadecimal, after the character itself where it is visible in ASCII. -/
def describeByte (b : UInt8) : Text :=
  let code := "0x".toList ++ hexByte b
  if 0x21 ≤ b ∧ b ≤ 0x7E then '\'' :: Char.ofUInt8 b :: "' (".toList ++ code ++ [')'] else code

def Error.message : Error → Text
  | .invalidWord byte => "invalid word ".toList ++ describeByte byte
  | .invalidString raw fault =>
    "invalid string address ".toList ++ raw ++ ": ".toList ++ fault.text
  | .unrecognizedToken token => "unrecognized token '".toList ++ token ++ ['\'']
  | .undefinedSymbols residue => "undefined symbols '".toList ++ residue ++ ['\'']
  | .noCommand region => "no command token found in '".toList ++ region ++ ['\'']
  | .missingChecksum block => "block '".toList ++ block ++ "' has no checksum section".toList
  | .kindMismatch expected found =>
    "address kind mismatch: expected ".toList ++ expected.text ++ ", found ".toList ++ found.text
  | .invalidComment comment => "invalid comment '".toList ++ comment ++ ['\'']
  | .checksumMismatch stored computed =>
    "checksum mismatch: stored *".toList ++ Text.ofNat stored.toNat ++ ", computed *".toList ++
      Text.ofNat computed.toNat

end NCBlock
