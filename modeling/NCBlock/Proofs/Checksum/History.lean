import NCBlock.Checksum.Digest

/-!
Histories of a digest. From the state in which it was made a digest may be fed
and reset in any order before it is used for a checksum. A digest forgets when a
reset wipes out all of that.
-/

namespace NCBlock

/-- What is done to a digest directly. -/
inductive DigestCall
  | write (bytes : List UInt8)
  | reset
deriving DecidableEq, Repr

namespace Digest

variable {σ : Type} (d : Digest σ) (s : σ)

def after : DigestCall → σ
  | .write bytes => (d.write bytes s).2
  | .reset => d.reset s

def afterAll (calls : List DigestCall) : σ := calls.foldl d.after s

theorem after_afterAll (calls : List DigestCall) (call : DigestCall) :
    d.after (d.afterAll s calls) call = d.afterAll s (calls ++ [call]) := by
  simp [afterAll]

/-- A reset leads to one and the same state, whatever was done since the digest was made. -/
def Forgets (fresh : σ) : Prop := ∀ calls, d.reset (d.afterAll fresh calls) = d.reset fresh

/-- A state that the digest can be in after it was made. -/
def Reached (fresh s : σ) : Prop := ∃ calls, s = d.afterAll fresh calls

variable {d s} {fresh : σ}

theorem reached_self : d.Reached fresh fresh := ⟨[], rfl⟩

theorem Reached.after (h : d.Reached fresh s) (call : DigestCall) :
    d.Reached fresh (d.after s call) := by
  obtain ⟨calls, rfl⟩ := h
  exact ⟨calls ++ [call], d.after_afterAll fresh calls call⟩

theorem Forgets.reset_eq (hd : d.Forgets fresh) (h : d.Reached fresh s) :
    d.reset s = d.reset fresh := by
  obtain ⟨calls, rfl⟩ := h
  exact hd calls

end Digest

end NCBlock
