import NCBlock.Json
import NCBlock.Text.Numeral

/-!
The lines of a document, and the report of its validation. A line feed ends a line, together with
one carriage return before it; the last line need not be ended, and then keeps a carriage return at
its end. A report holds the diagnostics in the order in which they were found and a count of blocks.
-/

namespace NCBlock

namespace Document

def lines : Text → List Text
  | [] => []
  | '\n' :: rest => [] :: lines rest
  | c :: rest =>
    if c = '\r' ∧ rest.head? = some '\n' then lines rest
    else
      match lines rest with
      | [] => [[c]]
      | line :: more => (c :: line) :: more

/-- Blank lines and lines that are a comment hold no block. -/
def isPassthrough (line : Text) : Bool :=
  match Text.trim line with
  | [] => true
  | c :: _ => c = ';'

end Document

inductive Severity
  | error
  | warning
deriving DecidableEq, Repr

def Severity.text : Severity → Text
  | .error => "error".toList
  | .warning => "warning".toList

structure Diagnostic where
  line : Nat
  message : Text
  severity : Severity
deriving DecidableEq

structure Report where
  diagnostics : List Diagnostic
  blocks : Nat
deriving DecidableEq

namespace Report

def empty : Report := ⟨[], 0⟩

def add (r : Report) (d : Diagnostic) : Report := { r with diagnostics := r.diagnostics ++ [d] }

def merge (r s : Report) : Report := ⟨r.diagnostics ++ s.diagnostics, r.blocks + s.blocks⟩

def count (severity : Severity) (r : Report) : Nat :=
  r.diagnostics.countP (·.severity = severity)

/-- Warnings alone do not make a document invalid. -/
def isValid (r : Report) : Bool := r.diagnostics.all (·.severity ≠ .error)

end Report

def Diagnostic.json (d : Diagnostic) : Json :=
  .object [("line".toList, .number (Text.ofNat d.line)), ("message".toList, .string d.message),
    ("severity".toList, .string d.severity.text)]

def Report.json (r : Report) : Json :=
  .object [("diagnostics".toList, .array (r.diagnostics.map Diagnostic.json)),
    ("blocks".toList, .number (Text.ofNat r.blocks))]

end NCBlock
