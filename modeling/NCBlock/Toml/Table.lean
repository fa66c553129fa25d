import NCBlock.Text.Basic

/-!
Values and tables of a TOML document, as far as settings need them: strings, booleans, arrays and
tables. A table remembers how it came about, because that decides what may still be added to it.
-/

namespace NCBlock.Toml

inductive Origin
  /-- Written between braces, and closed. -/
  | inline
  /-- Made by a key with dots. -/
  | dotted
  /-- Made on the way to a table further down that has a header. -/
  | implied
  /-- Has a header of its own. -/
  | declared
deriving DecidableEq

inductive Value
  | string (text : Text)
  | boolean (b : Bool)
  | array (items : List Value)
  | table (origin : Origin) (members : List (Text × Value))

abbrev Members := List (Text × Value)

namespace Members

def replace (key : Text) (v : Value) (ms : Members) : Members :=
  ms.map fun m => if m.1 = key then (key, v) else m

/-- Adds a value under a key with dots. No value is replaced, and no closed table is extended. -/
def assign : List Text → Value → Members → Option Members
  | [], _, _ => none
  | [key], v, ms => if (ms.lookup key).isSome then none else some (ms ++ [(key, v)])
  | key :: rest, v, ms =>
    match ms.lookup key with
    | none => (assign rest v []).map fun inner => ms ++ [(key, .table .dotted inner)]
    | some (.table origin inner) =>
      if origin = .dotted ∨ origin = .implied then
        (assign rest v inner).map fun inner => ms.replace key (.table origin inner)
      else none
    | some _ => none

/-- Opens the table of a header, which must not have been opened before. -/
def declare : List Text → Members → Option Members
  | [], _ => none
  | [key], ms =>
    match ms.lookup key with
    | none => some (ms ++ [(key, .table .declared [])])
    | some (.table .implied inner) => some (ms.replace key (.table .declared inner))
    | some _ => none
  | key :: rest, ms =>
    match ms.lookup key with
    | none => (declare rest []).map fun inner => ms ++ [(key, .table .implied inner)]
    | some (.table origin inner) =>
      if origin = .inline then none
      else (declare rest inner).map fun inner => ms.replace key (.table origin inner)
    | some _ => none

/-- Changes the table at a path. -/
def within : List Text → (Members → Option Members) → Members → Option Members
  | [], f, ms => f ms
  | key :: rest, f, ms =>
    match ms.lookup key with
    | some (.table origin inner) =>
      (within rest f inner).map fun inner => ms.replace key (.table origin inner)
    | _ => none

end Members

end NCBlock.Toml
