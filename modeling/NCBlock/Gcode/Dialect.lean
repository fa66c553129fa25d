import NCBlock.Gcode.Basic
import NCBlock.Token.Reading

/-!
Dialects. A dialect makes gcodes of readings; it may keep a state of its own and may refuse any
reading. The stock dialect has no state: it checks the word, and then the quoting of a string.
-/

namespace NCBlock

structure Dialect (σ : Type) where
  make : Reading → σ → Except Error Gcode × σ

def Gcode.ofReading (r : Reading) : Except Error Gcode :=
  match Word.ofByte r.word with
  | .error e => .error e
  | .ok word =>
    match r.literal with
    | .absent => .ok (.bare word)
    | .uint32 value => .ok (.addressed word (.uint32 value))
    | .int32 value => .ok (.addressed word (.int32 value))
    | .float32 value => .ok (.addressed word (.float32 value))
    | .string raw => (QuotedText.ofRaw raw).map fun q => .addressed word (.string q)

def Gcode.ofToken (token : Text) : Except Error Gcode :=
  match Reading.ofToken token with
  | .error e => .error e
  | .ok r => Gcode.ofReading r

namespace Dialect

def stock : Dialect Unit := ⟨fun r s => (Gcode.ofReading r, s)⟩

/-- Refuses some readings and leaves the others to the stock rules. -/
def refusing (refuse : Reading → Option Error) : Dialect Unit where
  make r s :=
    match refuse r with
    | some e => (.error e, s)
    | none => (Gcode.ofReading r, s)

variable {σ : Type}

/-- The same dialect, which also keeps the readings that it was handed, in order. -/
def logged (dialect : Dialect σ) : Dialect (List Reading × σ) where
  make r s :=
    let (made, state) := dialect.make r s.2
    (made, s.1 ++ [r], state)

/-- A token that cannot be read does not reach the dialect. -/
def ofToken (dialect : Dialect σ) (token : Text) (s : σ) : Except Error Gcode × σ :=
  match Reading.ofToken token with
  | .error e => (.error e, s)
  | .ok r => dialect.make r s

/-- Makes gcodes of tokens in order, up to the first that is refused. -/
def ofTokens (dialect : Dialect σ) : List Text → σ → Except Error (List Gcode) × σ
  | [], s => (.ok [], s)
  | token :: rest, s =>
    match dialect.ofToken token s with
    | (.error e, s) => (.error e, s)
    | (.ok g, s) =>
      match dialect.ofTokens rest s with
      | (.error e, s) => (.error e, s)
      | (.ok gs, s) => (.ok (g :: gs), s)

end Dialect

end NCBlock
