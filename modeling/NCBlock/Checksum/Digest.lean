/-!
Digests of bytes. A digest is fed in chunks and can be reset; its sum is a list of bytes. The stock
digest keeps one byte, the exclusive or of all bytes written. Where a sink for bytes is wanted, a
digest serves as one.
-/

namespace NCBlock

structure Digest (σ : Type) where
  reset : σ → σ
  /-- Feeds a chunk; the number is how many bytes were taken. -/
  write : List UInt8 → σ → Nat × σ
  sum : σ → List UInt8
  size : Nat
  blockSize : Nat

/-- Where bytes can be written. A write takes some bytes of a chunk and says how many, or fails. -/
structure Sink (ε σ : Type) where
  write : List UInt8 → σ → Except ε Nat × σ
  flush : σ → Except ε Unit × σ

namespace Digest

/-- A digest as a sink. It fails at nothing and has nothing to flush. -/
def sink (ε : Type) {σ : Type} (d : Digest σ) : Sink ε σ where
  write bytes s := (d.write bytes s).map .ok id
  flush s := (.ok (), s)

@[simp] theorem sink_write (ε : Type) {σ : Type} (d : Digest σ) (bytes : List UInt8) (s : σ) :
    (d.sink ε).write bytes s = (d.write bytes s).map .ok id := rfl

@[simp] theorem sink_flush (ε : Type) {σ : Type} (d : Digest σ) (s : σ) :
    (d.sink ε).flush s = (.ok (), s) := rfl

/-- A digest that folds all bytes into one. -/
def running (step : UInt8 → UInt8 → UInt8) (sum : UInt8 → List UInt8) : Digest UInt8 where
  reset _ := 0
  write bytes s := (bytes.length, bytes.foldl step s)
  sum := sum
  size := 1
  blockSize := 1

def xor : Digest UInt8 := running (· ^^^ ·) fun s => [s]

end Digest

def xorSum (bytes : List UInt8) : UInt8 := bytes.foldl (· ^^^ ·) 0

end NCBlock
