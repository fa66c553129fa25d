import Mathlib.Logic.Function.Basic
import NCBlock.Proofs.Block.Calls
import NCBlock.Proofs.Checksum.History

/-!
Blocks that share a digest. The digest is fed and reset from outside at any time,
and the calls on the blocks use it in turn. A call resets it before it feeds it,
so nothing is carried over from one block to the next: every call answers as if
the digest had just been made.
-/

namespace NCBlock

variable {σ ι : Type}

/-- A digest in some state, and the blocks that it is used for. -/
structure Shared (σ ι : Type) where
  state : σ
  blocks : ι → Block

/-- A call on the digest itself, on a block with the shared digest, or on a block
with a digest of its own. -/
inductive SharedCall (ι : Type)
  | direct (call : DigestCall)
  | shared (i : ι) (call : ChecksumCall)
  | own (i : ι) (call : ChecksumCall)

/-- One call of a run, with what it was made on and what it left. A call on the
digest itself is not answered. -/
structure SharedStep (σ ι : Type) where
  before : Shared σ ι
  call : SharedCall ι
  answer : Option ChecksumAnswer
  after : Shared σ ι

/-- The call may store or drop a checksum in a block. -/
def SharedCall.Changes (i : ι) : SharedCall ι → Prop
  | .direct _ => False
  | .shared j call => j = i ∧ (call = .update ∨ call = .strip)
  | .own j call => j = i ∧ (call = .update ∨ call = .strip)

/-- The call feeds the line of a block to the shared digest. -/
def SharedCall.Feeds (blocks : ι → Block) (i : ι) (call : SharedCall ι) : Prop :=
  call = .shared i .compute ∨ call = .shared i .update ∨
    call = .shared i .verify ∧ (blocks i).checksum ≠ none

namespace Block

def answerWith (d : Digest σ) (b : Block) (s : σ) : ChecksumCall → ChecksumAnswer
  | .compute => .computed (.checksum (b.digest d s).1)
  | .verify => .verified (b.verifyWith d s).1
  | .update => .updated (b.digest d s).1
  | .strip => .stripped b.checksum

def afterWith (d : Digest σ) (b : Block) (s : σ) : ChecksumCall → Block × σ
  | .compute => (b, (b.digest d s).2)
  | .verify => (b, (b.verifyWith d s).2)
  | .update => b.updateWith d s
  | .strip => (b.strip, s)

end Block

namespace Digest

variable [DecidableEq ι] (d : Digest σ)

/-- What a checksum is made of: the first byte of the sum, or zero if there is none. -/
def firstByte (s : σ) : UInt32 := ((d.sum s).headD 0).toUInt32

def answer (st : Shared σ ι) : SharedCall ι → Option ChecksumAnswer
  | .direct _ => none
  | .shared i call => some ((st.blocks i).answerWith d st.state call)
  | .own i call => some ((st.blocks i).answer call)

def next (st : Shared σ ι) : SharedCall ι → Shared σ ι
  | .direct call => { st with state := d.after st.state call }
  | .shared i call =>
    ⟨((st.blocks i).afterWith d st.state call).2,
      Function.update st.blocks i ((st.blocks i).afterWith d st.state call).1⟩
  | .own i call => { st with blocks := Function.update st.blocks i ((st.blocks i).after call) }

def step (st : Shared σ ι) (call : SharedCall ι) : SharedStep σ ι :=
  ⟨st, call, d.answer st call, d.next st call⟩

def run (d : Digest σ) (st : Shared σ ι) : List (SharedCall ι) → List (SharedStep σ ι)
  | [] => []
  | call :: rest => d.step st call :: d.run (d.next st call) rest

end Digest

/-! ### One block -/

namespace Block

variable {d : Digest σ} {fresh s : σ}

theorem reached_digest (b : Block) (h : d.Reached fresh s) :
    d.Reached fresh (b.digest d s).2 :=
  (h.after .reset).after (.write b.line.utf8)

/-- What a digest was used for before has no say in a checksum, nor in the state it leaves. -/
theorem digest_of_reached (hd : d.Forgets fresh) (h : d.Reached fresh s) (b : Block) :
    b.digest d s = b.digest d fresh := by
  simp only [digest, hd.reset_eq h]

theorem verifyWith_of_some (d : Digest σ) (s : σ) {b : Block} {stored : UInt32}
    (h : b.checksum = some stored) :
    b.verifyWith d s = (.ok (stored = (b.digest d s).1), (b.digest d s).2) := by
  rw [verifyWith, h]

theorem verifyWith_of_none (d : Digest σ) (s : σ) {b : Block} (h : b.checksum = none) :
    b.verifyWith d s = (.error (.missingChecksum b.fullLine), s) := by
  rw [verifyWith, h]

theorem answerWith_verify_of_some (d : Digest σ) (s : σ) {b : Block} {stored : UInt32}
    (h : b.checksum = some stored) :
    b.answerWith d s .verify = .verified (.ok (stored = d.firstByte (b.digest d s).2)) := by
  rw [answerWith, verifyWith_of_some d s h]
  rfl

theorem answerWith_verify_of_none (d : Digest σ) (s : σ) {b : Block} (h : b.checksum = none) :
    b.answerWith d s .verify = .verified (.error (.missingChecksum b.fullLine)) := by
  rw [answerWith, verifyWith_of_none d s h]

theorem verifyWith_fst_of_reached (hd : d.Forgets fresh) (h : d.Reached fresh s) (b : Block) :
    (b.verifyWith d s).1 = (b.verifyWith d fresh).1 := by
  cases hchecksum : b.checksum with
  | none => rw [verifyWith_of_none d s hchecksum, verifyWith_of_none d fresh hchecksum]
  | some stored =>
      rw [verifyWith_of_some d s hchecksum, verifyWith_of_some d fresh hchecksum,
        digest_of_reached hd h]

theorem reached_verifyWith (b : Block) (h : d.Reached fresh s) :
    d.Reached fresh (b.verifyWith d s).2 := by
  cases hchecksum : b.checksum with
  | none =>
      rw [verifyWith_of_none d s hchecksum]
      exact h
  | some stored =>
      rw [verifyWith_of_some d s hchecksum]
      exact b.reached_digest h

theorem reached_afterWith (b : Block) (h : d.Reached fresh s) (call : ChecksumCall) :
    d.Reached fresh (b.afterWith d s call).2 := by
  cases call with
  | compute => exact b.reached_digest h
  | verify => exact b.reached_verifyWith h
  | update => exact b.reached_digest h
  | strip => exact h

theorem answerWith_of_reached (hd : d.Forgets fresh) (h : d.Reached fresh s) (b : Block)
    (call : ChecksumCall) : b.answerWith d s call = b.answerWith d fresh call := by
  cases call with
  | compute => rw [answerWith, digest_of_reached hd h, answerWith]
  | verify => rw [answerWith, verifyWith_fst_of_reached hd h, answerWith]
  | update => rw [answerWith, digest_of_reached hd h, answerWith]
  | strip => rfl

theorem afterWith_fst_of_reached (hd : d.Forgets fresh) (h : d.Reached fresh s) (b : Block)
    (call : ChecksumCall) : (b.afterWith d s call).1 = (b.afterWith d fresh call).1 := by
  cases call with
  | update => simp only [afterWith, updateWith, digest_of_reached hd h]
  | compute => rfl
  | verify => rfl
  | strip => rfl

theorem compute_or_verify {call : ChecksumCall} (h : ¬(call = .update ∨ call = .strip)) :
    call = .compute ∨ call = .verify := by
  cases call with
  | compute => exact .inl rfl
  | verify => exact .inr rfl
  | update => exact absurd (.inl rfl) h
  | strip => exact absurd (.inr rfl) h

theorem afterWith_fst_eq_self (d : Digest σ) (s : σ) {b : Block} {call : ChecksumCall}
    (h : ¬(call = .update ∨ call = .strip)) : (b.afterWith d s call).1 = b := by
  rcases compute_or_verify h with rfl | rfl <;> rfl

theorem after_eq_self (b : Block) {call : ChecksumCall}
    (h : ¬(call = .update ∨ call = .strip)) : b.after call = b := by
  rcases compute_or_verify h with rfl | rfl <;> rfl

end Block

/-! ### The laws of a step -/

/-- What every step of a run keeps to when its digest was made in the state
`fresh`. A call answers as if the digest were in that state still, and what it
answers is read off the sum that it leaves, which is that of one line. -/
structure SharedStep.IsFresh [DecidableEq ι] (s : SharedStep σ ι) (d : Digest σ) (fresh : σ) :
    Prop where
  answer : s.answer = d.answer ⟨fresh, s.before.blocks⟩ s.call
  blocks : s.after.blocks = (d.next ⟨fresh, s.before.blocks⟩ s.call).blocks
  others : ∀ i, ¬s.call.Changes i → s.after.blocks i = s.before.blocks i
  sum : ∀ i, s.call.Feeds s.before.blocks i →
    d.sum s.after.state = d.sum (d.write (s.before.blocks i).line.utf8 (d.reset fresh)).2
  computed : ∀ i, s.call = .shared i .compute →
    s.answer = some (.computed (.checksum (d.firstByte s.after.state)))
  updated : ∀ i, s.call = .shared i .update →
    s.answer = some (.updated (d.firstByte s.after.state))
  stored : ∀ i, s.call = .shared i .update →
    (s.after.blocks i).checksum = some (d.firstByte s.after.state)
  verified : ∀ i value, s.call = .shared i .verify → (s.before.blocks i).checksum = some value →
    s.answer = some (.verified (.ok (value = d.firstByte s.after.state)))
  missing : ∀ i, s.call = .shared i .verify → (s.before.blocks i).checksum = none →
    s.answer = some (.verified (.error (.missingChecksum (s.before.blocks i).fullLine)))
  unused : ∀ i, s.call = .shared i .verify → (s.before.blocks i).checksum = none →
    s.after.state = s.before.state

namespace Digest

variable [DecidableEq ι] {d : Digest σ} {fresh : σ} {st : Shared σ ι} {call : SharedCall ι}
  {calls : List (SharedCall ι)} {i : ι}

theorem reached_next (h : d.Reached fresh st.state) (call : SharedCall ι) :
    d.Reached fresh (d.next st call).state := by
  cases call with
  | direct call => exact h.after call
  | shared i call => exact (st.blocks i).reached_afterWith h call
  | own i call => exact h

theorem next_blocks_of_not_changes (d : Digest σ) (st : Shared σ ι) (h : ¬call.Changes i) :
    (d.next st call).blocks i = st.blocks i := by
  have hupdate (j : ι) (b : Block) (hb : j = i → b = st.blocks i) :
      Function.update st.blocks j b i = st.blocks i := by
    by_cases hj : i = j
    · subst hj
      rw [Function.update_self, hb rfl]
    · rw [Function.update_of_ne hj]
  cases call with
  | direct call => rfl
  | shared j call =>
      refine hupdate j _ fun hj => ?_
      rw [Block.afterWith_fst_eq_self d _ (fun hcall => h ⟨hj, hcall⟩), hj]
  | own j call =>
      refine hupdate j _ fun hj => ?_
      rw [Block.after_eq_self _ (fun hcall => h ⟨hj, hcall⟩), hj]

theorem next_state_of_feeds (h : call.Feeds st.blocks i) :
    (d.next st call).state = ((st.blocks i).digest d st.state).2 := by
  rcases h with rfl | rfl | ⟨rfl, hchecksum⟩
  · rfl
  · rfl
  · obtain ⟨stored, hstored⟩ := Option.ne_none_iff_exists'.1 hchecksum
    exact congrArg Prod.snd (Block.verifyWith_of_some d st.state hstored)

theorem next_blocks_update (d : Digest σ) (st : Shared σ ι) (i : ι) :
    (d.next st (.shared i .update)).blocks i =
      { st.blocks i with checksum := some ((st.blocks i).digest d st.state).1 } :=
  Function.update_self i _ st.blocks

theorem isFresh_step (hd : d.Forgets fresh) (h : d.Reached fresh st.state)
    (call : SharedCall ι) : (d.step st call).IsFresh d fresh where
  answer := by
    cases call with
    | direct call => rfl
    | shared i call => exact congrArg some (Block.answerWith_of_reached hd h _ call)
    | own i call => rfl
  blocks := by
    cases call with
    | direct call => rfl
    | shared i call =>
        exact congrArg (Function.update st.blocks i) (Block.afterWith_fst_of_reached hd h _ call)
    | own i call => rfl
  others := fun i hi => d.next_blocks_of_not_changes st hi
  sum := by
    intro i hi
    have hstate : (d.next st call).state = ((st.blocks i).digest d st.state).2 :=
      next_state_of_feeds hi
    rw [step, hstate, Block.digest_of_reached hd h]
    rfl
  computed := by
    intro i hcall
    obtain rfl : call = .shared i .compute := hcall
    rfl
  updated := by
    intro i hcall
    obtain rfl : call = .shared i .update := hcall
    rfl
  stored := by
    intro i hcall
    obtain rfl : call = .shared i .update := hcall
    rw [step, next_blocks_update]
    rfl
  verified := by
    intro i value hcall hvalue
    obtain rfl : call = .shared i .verify := hcall
    have hchecksum : (st.blocks i).checksum ≠ none := Option.ne_none_iff_exists'.2 ⟨value, hvalue⟩
    have hstate : (d.next st (.shared i .verify)).state = ((st.blocks i).digest d st.state).2 :=
      next_state_of_feeds (.inr (.inr ⟨rfl, hchecksum⟩))
    rw [step, hstate]
    exact congrArg some (Block.answerWith_verify_of_some d st.state hvalue)
  missing := by
    intro i hcall hnone
    obtain rfl : call = .shared i .verify := hcall
    exact congrArg some (Block.answerWith_verify_of_none d st.state hnone)
  unused := by
    intro i hcall hnone
    obtain rfl : call = .shared i .verify := hcall
    exact congrArg Prod.snd (Block.verifyWith_of_none d st.state hnone)

/-! ### Runs -/

theorem isFresh_of_mem_run (hd : d.Forgets fresh) (h : d.Reached fresh st.state) :
    ∀ s ∈ d.run st calls, s.IsFresh d fresh := by
  induction calls generalizing st with
  | nil => exact fun s hs => absurd hs List.not_mem_nil
  | cons call calls ih =>
      exact List.forall_mem_cons.2 ⟨isFresh_step hd h call, ih (reached_next h call)⟩

/-- What follows the first steps of a run is itself a run. -/
theorem exists_run_of_append {before rest : List (SharedStep σ ι)}
    (h : d.Reached fresh st.state) (hrun : d.run st calls = before ++ rest) :
    ∃ st' calls', d.Reached fresh st'.state ∧ d.run st' calls' = rest := by
  induction before generalizing st calls with
  | nil => exact ⟨st, calls, h, hrun⟩
  | cons s before ih =>
      cases calls with
      | nil => cases hrun
      | cons call calls => exact ih (reached_next h call) (List.cons.inj hrun).2

theorem run_eq_cons {s : SharedStep σ ι} {rest : List (SharedStep σ ι)}
    (hrun : d.run st calls = s :: rest) :
    s = d.step st s.call ∧ ∃ calls', d.run s.after calls' = rest := by
  cases calls with
  | nil => cases hrun
  | cons call calls =>
      obtain ⟨rfl, hrest⟩ := List.cons.inj hrun
      exact ⟨rfl, calls, hrest⟩

/-- A block is the same after steps that leave its checksum alone. -/
theorem blocks_eq_of_not_changes {between after : List (SharedStep σ ι)} {t : SharedStep σ ι}
    (hbetween : ∀ u ∈ between, ¬u.call.Changes i)
    (hrun : d.run st calls = between ++ t :: after) : t.before.blocks i = st.blocks i := by
  induction between generalizing st calls with
  | nil =>
      obtain ⟨ht, -⟩ := run_eq_cons hrun
      rw [ht]
      rfl
  | cons u between ih =>
      obtain ⟨hu, calls', hrest⟩ := run_eq_cons hrun
      obtain ⟨hfirst, hothers⟩ := List.forall_mem_cons.1 hbetween
      have hkept := d.next_blocks_of_not_changes st hfirst
      rw [ih hothers hrest, hu]
      exact hkept

/-- A checksum that was stored with the digest is found right with it. -/
theorem answer_verify_of_update (hd : d.Forgets fresh) {s s' : σ} (hs : d.Reached fresh s)
    (hs' : d.Reached fresh s') {b c : Block} (hc : c = (b.updateWith d s).1) :
    c.answerWith d s' .verify = .verified (.ok true) := by
  have hdigest : c.digest d s' = b.digest d s := by
    rw [Block.digest_of_reached hd hs', Block.digest_of_reached hd hs, hc]
    rfl
  have hstored : c.checksum = some (b.digest d s).1 := by rw [hc, Block.updateWith]
  rw [Block.answerWith, Block.verifyWith_of_some d s' hstored, hdigest, decide_eq_true rfl]

/-- Calls on blocks that share a digest answer as if each had the digest to itself
and new, and leave it with nothing but the line of their block. Whatever else the
digest is used for, a checksum that was stored with it is found right until
another is stored in the block or it is dropped. -/
theorem run_isFresh (d : Digest σ) (fresh : σ) (hd : d.Forgets fresh) (blocks : ι → Block)
    (calls : List (SharedCall ι)) :
    (∀ s ∈ d.run ⟨fresh, blocks⟩ calls, s.IsFresh d fresh) ∧
    ∀ i before s between t after,
      d.run ⟨fresh, blocks⟩ calls = before ++ s :: (between ++ t :: after) →
      s.call = .shared i .update → (∀ u ∈ between, ¬u.call.Changes i) →
      t.call = .shared i .verify → t.answer = some (.verified (.ok true)) := by
  refine ⟨isFresh_of_mem_run hd reached_self, ?_⟩
  intro i before s between t after hrun hupdate hbetween hverify
  have hfresh : d.Reached fresh (Shared.mk fresh blocks).state := reached_self
  obtain ⟨st, calls', hst, hsuffix⟩ := exists_run_of_append hfresh hrun
  obtain ⟨hs, calls'', hrest⟩ := run_eq_cons hsuffix
  rw [hupdate] at hs
  have hreached : d.Reached fresh s.after.state := by
    rw [hs]
    exact reached_next hst _
  have hblock : t.before.blocks i = ((st.blocks i).updateWith d st.state).1 := by
    rw [blocks_eq_of_not_changes hbetween hrest, hs]
    exact d.next_blocks_update st i
  obtain ⟨st', calls''', hst', hlast⟩ := exists_run_of_append hreached hrest
  obtain ⟨ht, -⟩ := run_eq_cons hlast
  rw [hverify] at ht
  have hbefore : t.before = st' := congrArg SharedStep.before ht
  rw [congrArg SharedStep.answer ht, ← hbefore]
  exact congrArg some (answer_verify_of_update hd hst (hbefore ▸ hst') hblock)

/-- Two bytes for every text. -/
def wide : Digest UInt8 := running (· + ·) fun s => [s, 255 - s]

def toolAndHome : Bool → Block
  | false => ⟨some 3, .addressed ⟨'T', by decide⟩ (.int32 0), [], none, none⟩
  | true => ⟨none, .addressed ⟨'G', by decide⟩ (.int32 28), [], some 9, some ";A".toList⟩

/-- The digest is fed from outside and used for the other block, which is also
given a checksum of its own, before the first one is verified. -/
theorem run_isFresh_wide :
    wide.Forgets 7 ∧ ∃ t, (wide.run ⟨7, toolAndHome⟩
        [.direct (.write [200]), .shared false .update, .shared true .verify,
          .direct (.write [1, 2]), .own true .update, .shared false .verify]).getLast? = some t ∧
      t.answer = some (.verified (.ok true)) ∧ t.IsFresh wide 7 := by
  have hd : wide.Forgets 7 := fun _ => rfl
  obtain ⟨hfresh, hverified⟩ := run_isFresh wide 7 hd toolAndHome
    [.direct (.write [200]), .shared false .update, .shared true .verify,
      .direct (.write [1, 2]), .own true .update, .shared false .verify]
  refine ⟨hd, _, rfl, hverified false [_] _ [_, _, _] _ [] rfl rfl ?_ rfl, ?_⟩
  · simp [step, SharedCall.Changes]
  · exact hfresh _ (List.mem_of_getLast? rfl)

/-- A digest without bytes counts as zero, and a missing checksum leaves it alone. -/
example : ((running (· ^^^ ·) fun _ => []).run ⟨5, toolAndHome⟩
      [.shared false .verify, .shared true .update, .shared true .verify]).map
        SharedStep.answer =
    [some (.verified (.error (.missingChecksum "N3 T0".toList))), some (.updated 0),
      some (.verified (.ok true))] := by
  rfl

end Digest

end NCBlock
