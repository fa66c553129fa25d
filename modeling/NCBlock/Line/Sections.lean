import NCBlock.Error
import NCBlock.Text.UpperCase
import NCBlock.Text.WordCharacter
import NCBlock.Token.Span

/-!
The normal form of a line: no blanks at its ends, capitals only, one space for every longer run of
blanks, and no tab or line break. And the sections that have a fixed place in it: a comment at the
end, a line number at the start, and a checksum before the comment. What is left between them is the
region of the tokens. The sections are cut off in this order.
-/

namespace NCBlock.Line

/-- Every run of two or more blanks becomes one space; a blank that stands alone is kept. -/
def squeeze : Text → Text
  | [] => []
  | c :: rest =>
    match squeeze rest with
    | [] => [c]
    | d :: kept => if isBlank c && isBlank d then ' ' :: kept else c :: d :: kept

def flatten (t : Text) : Text := t.map fun c => if isLineControl c then ' ' else c

def normalize (line : Text) : Text := flatten (squeeze (Text.upperCase (Text.trim line)))

structure Sections where
  lineNumber : Option UInt32
  checksum : Option UInt32
  comment : Option Text
  region : Text
deriving DecidableEq

/-- A comment runs from a semicolon to the end of the text and has no line break. -/
def cutComment : Text → Text × Option Text
  | [] => ([], none)
  | c :: rest =>
    if c = ';' ∧ '\n' ∉ rest then ([], some (c :: rest))
    else (c :: (cutComment rest).1, (cutComment rest).2)

/-- The digits of a line number at the start of a text, and what follows them. A word boundary must
follow, so that digits do not run on into a letter. -/
def lineNumberDigits? : Text → Option (Text × Text)
  | 'N' :: rest =>
    match spanDigits rest with
    | ([], _) => none
    | (digits, []) => some (digits, [])
    | (digits, c :: after) => if isWordCharacter c then none else some (digits, c :: after)
  | _ => none

/-- What precedes a checksum at the end of a text, and the digits of the checksum. -/
def checksumDigits? : Text → Option (Text × Text)
  | [] => none
  | c :: rest =>
    if c = '*' ∧ rest ≠ [] ∧ rest.all isDecimalDigit then some ([], rest)
    else (checksumDigits? rest).map fun (before, digits) => (c :: before, digits)

/-- The value of the digits behind a mark. -/
def count (mark : Char) (digits : Text) : Except Error UInt32 :=
  match Text.toUInt32? digits with
  | some n => .ok n
  | none => .error (.unrecognizedToken (mark :: digits))

def takeLineNumber (t : Text) : Except Error (Option UInt32 × Text) :=
  match lineNumberDigits? t with
  | none => .ok (none, t)
  | some (digits, rest) => (count 'N' digits).map fun n => (some n, Text.trimStart rest)

def takeChecksum (t : Text) : Except Error (Option UInt32 × Text) :=
  match checksumDigits? t with
  | none => .ok (none, t)
  | some (before, digits) => (count '*' digits).map fun n => (some n, before)

def sections (line : Text) : Except Error Sections :=
  match takeLineNumber (Text.trimEnd (cutComment line).1) with
  | .error e => .error e
  | .ok (lineNumber, rest) =>
    match takeChecksum rest with
    | .error e => .error e
    | .ok (checksum, region) =>
      .ok ⟨lineNumber, checksum, (cutComment line).2, Text.trim region⟩

end NCBlock.Line
