import NCBlock.Toml.Quoted
import NCBlock.Toml.Table

/-!
Reading a TOML document. Numbers, dates and arrays of tables are not read: no setting has them, so a
document that holds one is refused like any other that settings cannot be taken from.
-/

namespace NCBlock.Toml

/-- Takes a value off the start of a text and leaves the rest. -/
abbrev Reader := StateT Text Option

namespace Reader

def peek : Reader (Option Char) := fun t => some (t.head?, t)

def expect (c : Char) : Reader Unit
  | d :: rest => if c = d then some ((), rest) else none
  | [] => none

def skipSpaces : Reader Unit := fun t => some ((), t.dropWhile isSpace)

/-- Spaces and a comment, up to the end of the line. -/
def skipRemark : Reader Unit := fun t =>
  match t.dropWhile isSpace with
  | '#' :: rest => some ((), rest.dropWhile isPlain)
  | rest => some ((), rest)

def lineBreak : Reader Unit
  | '\n' :: rest => some ((), rest)
  | '\r' :: '\n' :: rest => some ((), rest)
  | _ => none

/-- Remarks and line breaks, as many as there are. -/
def skipLines : Nat → Reader Unit
  | 0 => pure ()
  | fuel + 1 => do
    skipRemark
    match ← peek with
    | some '\n' | some '\r' => do lineBreak; skipLines fuel
    | _ => pure ()

def isBareKeyCharacter (c : Char) : Bool := c.isAlphanum || c = '_' || c = '-'

def simpleKey : Reader Text := fun t =>
  match t with
  | '"' :: _ | '\'' :: _ => quoted?.lineQuoted? t
  | _ =>
    match t.takeWhile isBareKeyCharacter with
    | [] => none
    | key => some (key, t.dropWhile isBareKeyCharacter)

/-- Keys with dots between them and spaces around. -/
def key : Nat → Reader (List Text)
  | 0 => failure
  | fuel + 1 => do
    skipSpaces
    let first ← simpleKey
    skipSpaces
    match ← peek with
    | some '.' => do expect '.'; return first :: (← key fuel)
    | _ => return [first]

def boolean : Reader Value
  | 't' :: 'r' :: 'u' :: 'e' :: rest => some (.boolean true, rest)
  | 'f' :: 'a' :: 'l' :: 's' :: 'e' :: rest => some (.boolean false, rest)
  | _ => none

mutual

def value : Nat → Reader Value
  | 0 => failure
  | fuel + 1 => do
    match ← peek with
    | some '"' | some '\'' => return .string (← quoted?)
    | some '[' => do expect '['; return .array (← items fuel)
    | some '{' => do expect '{'; return .table .inline (← members fuel [])
    | _ => boolean

/-- The items of an array up to its closing bracket. -/
def items : Nat → Reader (List Value)
  | 0 => failure
  | fuel + 1 => do
    skipLines fuel
    match ← peek with
    | some ']' => do expect ']'; return []
    | _ => do
      let item ← value fuel
      skipLines fuel
      match ← peek with
      | some ',' => do expect ','; return item :: (← items fuel)
      | _ => do expect ']'; return [item]

/-- The members of a table up to its closing brace, added to those read before. -/
def members : Nat → Members → Reader Members
  | 0, _ => failure
  | fuel + 1, before => do
    skipLines fuel
    match ← peek with
    | some '}' => do expect '}'; return before
    | _ => do
      let path ← key fuel
      expect '='
      skipSpaces
      let v ← value fuel
      let now ← before.assign path v
      skipLines fuel
      match ← peek with
      | some ',' => do expect ','; members fuel now
      | _ => do expect '}'; return now

end

/-- The end of a line or of the document, behind an optional comment. -/
def lineEnd : Reader Unit := do
  skipRemark
  match ← peek with
  | none => pure ()
  | some _ => lineBreak

/-- The statements of a document. `header` is the path of the table that they go to. -/
def statements : Nat → List Text → Members → Reader Members
  | 0, _, _ => failure
  | fuel + 1, header, root => do
    skipLines fuel
    match ← peek with
    | none => return root
    | some '[' => do
      expect '['
      let path ← key fuel
      expect ']'
      lineEnd
      statements fuel path (← root.declare path)
    | some _ => do
      let path ← key fuel
      expect '='
      skipSpaces
      let v ← value fuel
      lineEnd
      statements fuel header (← root.within header (·.assign path v))

end Reader

/-- A byte order mark at the start is no part of the document. -/
def dropByteOrderMark : Text → Text
  | '\ufeff' :: rest => rest
  | t => t

/-- The members of a whole document. Every step of the reader takes a character or goes one level
down, so twice the length is fuel enough. -/
def read (document : Text) : Option Members :=
  let t := dropByteOrderMark document
  ((Reader.statements (2 * t.length + 4) [] []).run t).map (·.1)

end NCBlock.Toml
