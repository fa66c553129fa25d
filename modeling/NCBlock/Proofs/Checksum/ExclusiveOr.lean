import Mathlib.Data.List.DropRight
import NCBlock.Proofs.Block.Calls
import NCBlock.Proofs.Checksum.History

/-!
Sums of bytes by exclusive or. How the bytes are cut into chunks, and whether these
are handed to the digest itself or to the sink that it serves as, does not show in
the sum. A byte that is changed does, so a checksum that is right for one line is
wrong for every line that differs from it in a single byte.
-/

namespace NCBlock

/-! ### Sums -/

theorem foldl_xor (bytes : List UInt8) (s : UInt8) :
    bytes.foldl (· ^^^ ·) s = s ^^^ xorSum bytes := by
  calc
    bytes.foldl (· ^^^ ·) s = bytes.foldl (· ^^^ ·) (s ^^^ 0) := by rw [UInt8.xor_zero]
    _ = s ^^^ xorSum bytes := List.foldl_assoc

theorem xorSum_append (xs ys : List UInt8) : xorSum (xs ++ ys) = xorSum xs ^^^ xorSum ys := by
  rw [← foldl_xor, xorSum, xorSum, List.foldl_append]

theorem xorSum_cons (x : UInt8) (xs : List UInt8) : xorSum (x :: xs) = x ^^^ xorSum xs := by
  rw [xorSum, List.foldl_cons, foldl_xor, UInt8.zero_xor]

/-! ### One byte changed -/

/-- Byte strings of one length that differ in one place and agree in all others. -/
def OneByteApart (xs ys : List UInt8) : Prop :=
  xs.length = ys.length ∧ ∃! i : Nat, xs[i]? ≠ ys[i]?

variable {xs ys : List UInt8}

theorem OneByteApart.exists_append (h : OneByteApart xs ys) :
    ∃ l x y r, x ≠ y ∧ xs = l ++ x :: r ∧ ys = l ++ y :: r := by
  obtain ⟨hlength, i, hdiffers, hothers⟩ := h
  have hx : i < xs.length := by
    by_contra hlarge
    rw [List.getElem?_eq_none (Nat.le_of_not_lt hlarge),
      List.getElem?_eq_none (hlength ▸ Nat.le_of_not_lt hlarge)] at hdiffers
    exact hdiffers rfl
  have hy : i < ys.length := hlength ▸ hx
  rw [List.getElem?_eq_getElem hx, List.getElem?_eq_getElem hy] at hdiffers
  -- away from `i` nothing differs, so one string is the other with a byte put in
  have hset : ys = xs.set i ys[i] := by
    refine List.ext_getElem? fun j => ?_
    by_cases hj : i = j
    · subst hj
      rw [List.getElem?_set_self hx, List.getElem?_eq_getElem hy]
    · rw [List.getElem?_set_ne hj]
      by_contra hne
      exact hj (hothers j (Ne.symm hne)).symm
  refine ⟨xs.take i, xs[i], ys[i], xs.drop (i + 1), ?_, ?_, ?_⟩
  · exact fun heq => hdiffers (congrArg some heq)
  · rw [List.getElem_cons_drop, List.take_append_drop]
  · rw [List.set_eq_take_append_cons_drop, if_pos hx] at hset
    exact hset

theorem oneByteApart_append (l r : List UInt8) {x y : UInt8} (h : x ≠ y) :
    OneByteApart (l ++ x :: r) (l ++ y :: r) := by
  refine ⟨by simp, l.length, by simpa using h, fun j hj => ?_⟩
  by_contra hne
  rcases Nat.lt_or_gt_of_ne hne with hleft | hright
  · exact hj (by rw [List.getElem?_append_left hleft, List.getElem?_append_left hleft])
  · obtain ⟨k, rfl⟩ := Nat.exists_eq_add_of_lt hright
    exact hj (by simp [List.getElem?_append_right, Nat.add_assoc])

/-- What stands before and behind the changed byte goes into both sums alike. -/
theorem OneByteApart.xorSum_ne (h : OneByteApart xs ys) : xorSum xs ≠ xorSum ys := by
  obtain ⟨l, x, y, r, hne, rfl, rfl⟩ := h.exists_append
  rw [xorSum_append, xorSum_append, xorSum_cons, xorSum_cons]
  rwa [Ne, UInt8.xor_right_inj, UInt8.xor_left_inj]

/-! ### Chunks -/

/-- A call on a digest: one of its own, or one on the sink that it serves as. -/
inductive FeedCall
  | own (call : DigestCall)
  | sinkWrite (bytes : List UInt8)
  | sinkFlush
deriving DecidableEq, Repr

inductive FeedAnswer (ε : Type)
  | silent
  | taken (count : Nat)
  | sinkTaken (result : Except ε Nat)
  | sinkFlushed (result : Except ε Unit)

namespace FeedCall

def isReset : FeedCall → Bool
  | .own .reset => true
  | _ => false

/-- The bytes that a call hands over. -/
def bytes : FeedCall → List UInt8
  | .own (.write bytes) => bytes
  | .sinkWrite bytes => bytes
  | .own .reset => []
  | .sinkFlush => []

/-- The answer to a call when every chunk is taken whole and nothing fails. -/
def whole (ε : Type) : FeedCall → FeedAnswer ε
  | .own .reset => .silent
  | .own (.write bytes) => .taken bytes.length
  | .sinkWrite bytes => .sinkTaken (.ok bytes.length)
  | .sinkFlush => .sinkFlushed (.ok ())

end FeedCall

/-- All bytes handed over since the last reset, or from the start if there was none. -/
def sinceReset (calls : List FeedCall) : List UInt8 :=
  (calls.rtakeWhile fun call => !call.isReset).flatMap FeedCall.bytes

theorem sinceReset_concat_reset (calls : List FeedCall) :
    sinceReset (calls ++ [.own .reset]) = [] := by
  rw [sinceReset, List.rtakeWhile_concat_neg _ _ _ (by decide), List.flatMap_nil]

theorem sinceReset_concat (calls : List FeedCall) {call : FeedCall} (h : call.isReset = false) :
    sinceReset (calls ++ [call]) = sinceReset calls ++ call.bytes := by
  rw [sinceReset, List.rtakeWhile_concat_pos _ _ _ (by simpa using h), List.flatMap_append,
    List.flatMap_singleton, sinceReset]

namespace Digest

variable {σ : Type} (ε : Type)

def feed (d : Digest σ) (s : σ) : FeedCall → FeedAnswer ε × σ
  | .own .reset => (.silent, d.reset s)
  | .own (.write bytes) => (d.write bytes s).map .taken id
  | .sinkWrite bytes => ((d.sink ε).write bytes s).map .sinkTaken id
  | .sinkFlush => ((d.sink ε).flush s).map .sinkFlushed id

/-- The answers to calls made one after the other, and the state behind the last one. -/
def feedAll (d : Digest σ) (s : σ) : List FeedCall → List (FeedAnswer ε) × σ
  | [] => ([], s)
  | call :: rest => (d.feedAll (d.feed ε s call).2 rest).map ((d.feed ε s call).1 :: ·) id

theorem feedAll_concat (d : Digest σ) (s : σ) (calls : List FeedCall) (call : FeedCall) :
    d.feedAll ε s (calls ++ [call]) =
      (d.feed ε (d.feedAll ε s calls).2 call).map ((d.feedAll ε s calls).1 ++ [·]) id := by
  induction calls generalizing s with
  | nil => rfl
  | cons first calls ih =>
      rw [List.cons_append, feedAll, ih]
      rfl

theorem xor_write (past bytes : List UInt8) :
    xor.write bytes (xorSum past) = (bytes.length, xorSum (past ++ bytes)) := by
  rw [xorSum_append, ← foldl_xor]
  rfl

/-- A call is answered in full and leaves the sum of the bytes since the last reset. -/
theorem feed_xor (calls : List FeedCall) (call : FeedCall) :
    xor.feed ε (xorSum (sinceReset calls)) call =
      (call.whole ε, xorSum (sinceReset (calls ++ [call]))) := by
  cases call with
  | own call =>
      cases call with
      | reset =>
          rw [sinceReset_concat_reset]
          rfl
      | write bytes =>
          rw [sinceReset_concat calls rfl, feed, xor_write]
          rfl
  | sinkWrite bytes =>
      rw [sinceReset_concat calls rfl, feed, sink_write, xor_write]
      rfl
  | sinkFlush =>
      rw [sinceReset_concat calls rfl, FeedCall.bytes, List.append_nil, feed, sink_flush]
      rfl

theorem feedAll_xor (calls : List FeedCall) :
    xor.feedAll ε 0 calls = (calls.map (FeedCall.whole ε), xorSum (sinceReset calls)) := by
  -- by the last call, which decides whether the bytes before it still count
  induction calls using List.reverseRecOn with
  | nil => rfl
  | append_singleton calls call ih =>
      rw [feedAll_concat, ih, feed_xor, List.map_append]
      rfl

/-- A line in two chunks, by either way in, behind a byte that is wiped out. -/
example : xor.feedAll Empty 0 [.own (.write [200]), .own .reset,
      .sinkWrite (Text.utf8 "N3 ".toList), .sinkFlush, .own (.write (Text.utf8 "T0".toList))] =
    ([.taken 1, .silent, .sinkTaken (.ok 3), .sinkFlushed (.ok ()), .taken 2], 57) := by
  rfl

end Digest

/-! ### Lines -/

namespace Block

theorem verify_computed (b : Block) :
    (b.withChecksum (some b.computedChecksum)).verify = .ok true :=
  (verify_eq_true_iff rfl).2 rfl

theorem verify_eq_false_of_xorSum_ne {b c : Block}
    (hne : xorSum b.line.utf8 ≠ xorSum c.line.utf8) {checksum : Option UInt32}
    (hb : (b.withChecksum checksum).verify = .ok true) :
    (c.withChecksum checksum).verify = .ok false := by
  cases checksum with
  | none =>
      rw [verify_of_none rfl] at hb
      cases hb
  | some stored =>
      rw [verify_eq_true_iff rfl, computedChecksum_withChecksum] at hb
      have hcomputed : b.computedChecksum ≠ c.computedChecksum := by
        rw [computedChecksum_eq, computedChecksum_eq]
        exact fun heq => hne (UInt8.toUInt32_inj.1 heq)
      exact verify_of_wrong rfl (hb ▸ hcomputed)

end Block

namespace Digest

/-- Whatever the stock digest is handed, in whatever chunks and by either way in, it
takes everything and keeps the sum of the bytes since the last reset. The sums of
byte strings that are one byte apart are different, so what verifies for a block
does not verify for another whose line is one byte apart. -/
theorem xor_sums_and_separates (ε : Type) :
    (∀ calls, xor.feedAll ε 0 calls =
        (calls.map (FeedCall.whole ε), xorSum (sinceReset calls))) ∧
    (∀ xs ys, OneByteApart xs ys → xorSum xs ≠ xorSum ys) ∧
    ∀ b c : Block, OneByteApart b.line.utf8 c.line.utf8 →
      (c.withChecksum (some b.computedChecksum)).verify = .ok false ∧
      (b.withChecksum (some c.computedChecksum)).verify = .ok false ∧
      ∀ checksum, (b.withChecksum checksum).verify = .ok true →
        (c.withChecksum checksum).verify = .ok false := by
  refine ⟨feedAll_xor ε, fun xs ys h => h.xorSum_ne, fun b c h => ?_⟩
  have hne : xorSum b.line.utf8 ≠ xorSum c.line.utf8 := h.xorSum_ne
  refine ⟨?_, ?_, fun checksum hb => ?_⟩
  · exact Block.verify_eq_false_of_xorSum_ne hne b.verify_computed
  · exact Block.verify_eq_false_of_xorSum_ne hne.symm c.verify_computed
  · exact Block.verify_eq_false_of_xorSum_ne hne hb

/-- Shows a text to the operator. -/
def message (text : QuotedText) : Block :=
  ⟨some 7, .addressed ⟨'M', by decide⟩ (.int32 117), [.addressed ⟨'P', by decide⟩ (.string text)],
    none, none⟩

def acute : Block := message ⟨"\"É\"".toList, by decide⟩

def grave : Block := message ⟨"\"È\"".toList, by decide⟩

/-- The two letters have two bytes each, the first of which is the same. -/
theorem xor_sums_and_separates_accents :
    OneByteApart acute.line.utf8 grave.line.utf8 ∧
      xorSum acute.line.utf8 ≠ xorSum grave.line.utf8 ∧
      (grave.withChecksum (some acute.computedChecksum)).verify = .ok false ∧
      (acute.withChecksum (some 25)).verify = .ok true ∧
      (grave.withChecksum (some 25)).verify = .ok false := by
  have hapart : OneByteApart acute.line.utf8 grave.line.utf8 :=
    oneByteApart_append (Text.utf8 "N7 M117 P\"".toList ++ [0xC3]) [0x22]
      (show (0x89 : UInt8) ≠ 0x88 by decide)
  have hright : (acute.withChecksum (some 25)).verify = .ok true := by rfl
  obtain ⟨-, hsums, hblocks⟩ := xor_sums_and_separates Empty
  obtain ⟨hcomputed, -, hstored⟩ := hblocks acute grave hapart
  exact ⟨hapart, hsums _ _ hapart, hcomputed, hright, hstored _ hright⟩

end Digest

end NCBlock
