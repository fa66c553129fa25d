import NCBlock.Error
import NCBlock.Number.Binary32

/-!
Addresses: the typed literals attached to words. Inside the outer quotes of a string a quote is
written twice. A string is kept in its quoted form, so that it is written back exactly as it was
read.
-/

namespace NCBlock

/-- Every quote stands next to a second one, counted in pairs from the left. -/
def quotesPaired : Text → Bool
  | [] => true
  | '"' :: '"' :: rest => quotesPaired rest
  | c :: rest => c != '"' && quotesPaired rest

/-- The first fault of a would-be quoted string, in the order in which faults are reported. -/
def stringFault? (raw : Text) : Option StringFault :=
  if raw.utf8.length ≤ 1 then some .tooShort
  else if raw.any isLineControl then some .controlCharacter
  else if ¬(raw.head? = some '"' ∧ raw.getLast? = some '"') then some .notQuoted
  else if ¬quotesPaired raw.tail.dropLast then some .unescapedQuote
  else none

/-- A well-formed quoted string, with its quotes. -/
structure QuotedText where
  raw : Text
  fault_eq_none : stringFault? raw = none
deriving DecidableEq

namespace QuotedText

def ofRaw (raw : Text) : Except Error QuotedText :=
  match h : stringFault? raw with
  | none => .ok ⟨raw, h⟩
  | some fault => .error (.invalidString raw fault)

def doubleQuotes (t : Text) : Text := t.flatMap fun c => if c = '"' then ['"', '"'] else [c]

def undoubleQuotes : Text → Text
  | [] => []
  | '"' :: '"' :: rest => '"' :: undoubleQuotes rest
  | c :: rest => c :: undoubleQuotes rest

def quote (content : Text) : Except Error QuotedText :=
  ofRaw ('"' :: doubleQuotes content ++ ['"'])

/-- The text between the outer quotes, with inner quotes single again. -/
def content (q : QuotedText) : Text := undoubleQuotes q.raw.tail.dropLast

end QuotedText

inductive Address
  | int32 (value : Int32)
  | uint32 (value : UInt32)
  | float32 (value : Binary32)
  | string (value : QuotedText)
deriving DecidableEq

namespace Address

/-- Floats in a line never have an exponent, and always a point. -/
def floatFormat : FloatFormat := ⟨.away, none, none⟩

def floatText (v : Binary32) : Text :=
  if v.isFinite then v.write floatFormat
  else if v.isNaN then "NaN".toList
  else if v.negative then "-inf".toList
  else "inf".toList

def kind : Address → AddressKind
  | .int32 _ => .int32
  | .uint32 _ => .uint32
  | .float32 _ => .float32
  | .string _ => .string

def text : Address → Text
  | .int32 value => Text.ofInt value.toInt
  | .uint32 value => Text.ofNat value.toNat
  | .float32 value => floatText value
  | .string value => value.raw

/-- Equality of addresses as values: floats compare by value and not by pattern. -/
def sameValue : Address → Address → Bool
  | .float32 v, .float32 w => v.sameValue w
  | a, b => a = b

/-- A new address in place of an old one, which must be of the same kind. -/
def replace (old new : Address) : Except Error Address :=
  if old.kind = new.kind then .ok new else .error (.kindMismatch old.kind new.kind)

end Address

end NCBlock
