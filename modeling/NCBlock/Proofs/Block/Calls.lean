import NCBlock.Block.Checksum

/-!
Runs of checksum calls on one block. A call can change nothing but the stored
checksum, so the line of the block and the checksum computed from it stay the
same for the whole run. What a verification answers depends on the stored
checksum alone, and once this is right or gone it never becomes wrong.
-/

namespace NCBlock

/-- The calls that deal with the checksum of a block. -/
inductive ChecksumCall
  | compute
  | verify
  | update
  | strip
deriving DecidableEq, Repr

inductive ChecksumAnswer
  | computed (g : Gcode)
  | verified (result : Except Error Bool)
  | updated (value : UInt32)
  | stripped (old : Option UInt32)

/-- One call of a run, with the block it was made on and the block it left. -/
structure ChecksumStep where
  before : Block
  call : ChecksumCall
  answer : ChecksumAnswer
  after : Block

namespace Block

def answer (b : Block) : ChecksumCall → ChecksumAnswer
  | .compute => .computed (.checksum b.computedChecksum)
  | .verify => .verified b.verify
  | .update => .updated b.computedChecksum
  | .strip => .stripped b.checksum

def after (b : Block) : ChecksumCall → Block
  | .compute => b
  | .verify => b
  | .update => b.update
  | .strip => b.strip

def step (b : Block) (call : ChecksumCall) : ChecksumStep :=
  ⟨b, call, b.answer call, b.after call⟩

def run (b : Block) : List ChecksumCall → List ChecksumStep
  | [] => []
  | call :: rest => b.step call :: (b.after call).run rest

variable {b : Block} {call : ChecksumCall} {calls : List ChecksumCall} {s : ChecksumStep}

/-! ### What changes -/

def withChecksum (b : Block) (checksum : Option UInt32) : Block := { b with checksum := checksum }

@[simp] theorem withChecksum_self (b : Block) : b.withChecksum b.checksum = b := rfl

@[simp] theorem withChecksum_withChecksum (b : Block) (first second : Option UInt32) :
    (b.withChecksum first).withChecksum second = b.withChecksum second := rfl

@[simp] theorem computedChecksum_withChecksum (b : Block) (checksum : Option UInt32) :
    (b.withChecksum checksum).computedChecksum = b.computedChecksum := rfl

theorem exists_after_eq (b : Block) (call : ChecksumCall) :
    ∃ checksum, b.after call = b.withChecksum checksum := by
  cases call with
  | compute => exact ⟨b.checksum, rfl⟩
  | verify => exact ⟨b.checksum, rfl⟩
  | update => exact ⟨some b.computedChecksum, rfl⟩
  | strip => exact ⟨none, rfl⟩

/-- Every step of a run is made on the first block with some checksum stored in it. -/
theorem exists_step_of_mem_run (h : s ∈ b.run calls) :
    ∃ checksum call, s = (b.withChecksum checksum).step call := by
  induction calls generalizing b with
  | nil => cases h
  | cons call calls ih =>
      rcases List.mem_cons.1 h with rfl | h
      · exact ⟨b.checksum, call, by rw [withChecksum_self]⟩
      · obtain ⟨checksum, call', heq⟩ := ih h
        obtain ⟨first, hfirst⟩ := b.exists_after_eq call
        rw [hfirst, withChecksum_withChecksum] at heq
        exact ⟨checksum, call', heq⟩

/-! ### Verification -/

theorem verify_of_none (h : b.checksum = none) :
    b.verify = .error (.missingChecksum b.fullLine) := by
  rw [verify, verifyWith, h]

theorem verify_of_some {stored : UInt32} (h : b.checksum = some stored) :
    b.verify = .ok (stored = (xorSum b.line.utf8).toUInt32) := by
  rw [verify, verifyWith, h]
  rfl

theorem verify_eq_true_iff {stored : UInt32} (h : b.checksum = some stored) :
    b.verify = .ok true ↔ stored = b.computedChecksum := by
  rw [verify_of_some h, ← b.computedChecksum_eq]
  simp

theorem verify_of_wrong {stored : UInt32} (h : b.checksum = some stored)
    (hne : stored ≠ b.computedChecksum) : b.verify = .ok false := by
  rw [verify_of_some h, ← b.computedChecksum_eq, decide_eq_false hne]

theorem verify_eq_missing_iff (b : Block) :
    b.verify = .error (.missingChecksum b.fullLine) ↔ b.checksum = none := by
  cases hchecksum : b.checksum with
  | none => simp [verify_of_none hchecksum]
  | some stored => simp [verify_of_some hchecksum]

/-- A computed checksum has one byte only. -/
theorem xorSum_toUInt32_lt (bytes : List UInt8) : (xorSum bytes).toUInt32 < 256 := by
  rw [UInt32.lt_iff_toNat_lt, UInt8.toNat_toUInt32]
  exact (xorSum bytes).toNat_lt

theorem verify_of_wide {stored : UInt32} (h : b.checksum = some stored) (hwide : 256 ≤ stored) :
    b.verify = .ok false := by
  refine verify_of_wrong h ?_
  rintro rfl
  exact absurd (xorSum_toUInt32_lt b.line.utf8) (UInt32.not_lt.2 hwide)

/-! ### Right checksums -/

/-- If a checksum is stored, it is the right one. -/
def HasRightChecksum (b : Block) : Prop :=
  ∀ stored ∈ b.checksum, stored = (xorSum b.line.utf8).toUInt32

theorem hasRightChecksum_of_validated {b₀ : Block} (h : b₀.validated = .ok b) :
    b.HasRightChecksum := by
  rw [validated] at h
  split at h
  · cases h
  · cases h
  next _ hchecksum =>
    cases h
    intro stored hstored
    have hright := Option.filter_eq_none_iff.1 hchecksum stored hstored
    rwa [decide_eq_true_eq, Decidable.not_not] at hright

theorem hasRightChecksum_after (hcall : call = .update ∨ call = .strip) :
    (b.after call).HasRightChecksum := by
  rcases hcall with rfl | rfl
  · intro stored hstored
    exact (Option.some.inj hstored).symm
  · intro stored hstored
    cases hstored

theorem HasRightChecksum.after (h : b.HasRightChecksum) (call : ChecksumCall) :
    (b.after call).HasRightChecksum := by
  cases call with
  | compute => exact h
  | verify => exact h
  | update => exact hasRightChecksum_after (.inl rfl)
  | strip => exact hasRightChecksum_after (.inr rfl)

theorem HasRightChecksum.verify_ne_false (h : b.HasRightChecksum) : b.verify ≠ .ok false := by
  cases hchecksum : b.checksum with
  | none =>
      rw [verify_of_none hchecksum]
      exact nofun
  | some stored =>
      rw [verify_of_some hchecksum, decide_eq_true (h stored hchecksum)]
      exact nofun

theorem HasRightChecksum.answer_ne_false (h : b.HasRightChecksum) (call : ChecksumCall) :
    b.answer call ≠ .verified (.ok false) := by
  cases call with
  | verify => exact fun heq => h.verify_ne_false (ChecksumAnswer.verified.inj heq)
  | _ => exact nofun

theorem HasRightChecksum.run (h : b.HasRightChecksum) :
    ∀ s ∈ b.run calls, s.answer ≠ .verified (.ok false) := by
  induction calls generalizing b with
  | nil => exact fun s hs => absurd hs List.not_mem_nil
  | cons call calls ih =>
      exact List.forall_mem_cons.2 ⟨h.answer_ne_false call, ih (h.after call)⟩

/-- After an update or a strip no verification finds a wrong checksum. -/
theorem pairwise_run (b : Block) (calls : List ChecksumCall) :
    (b.run calls).Pairwise fun s t =>
      s.call = .update ∨ s.call = .strip → t.answer ≠ .verified (.ok false) := by
  induction calls generalizing b with
  | nil => exact .nil
  | cons call calls ih =>
      refine .cons (fun t ht hcall => ?_) (ih (b.after call))
      exact (hasRightChecksum_after hcall).run t ht

end Block

/-! ### The laws of a run -/

/-- What every step keeps to in the runs that start with a block. -/
structure ChecksumStep.IsLawful (s : ChecksumStep) (b : Block) : Prop where
  lineNumber : s.after.lineNumber = b.lineNumber
  command : s.after.command = b.command
  parameters : s.after.parameters = b.parameters
  comment : s.after.comment = b.comment
  line : s.after.line = b.line
  compute : s.call = .compute → s.after = s.before ∧
    s.answer = .computed (.checksum (xorSum b.line.utf8).toUInt32)
  verify : s.call = .verify → s.after = s.before ∧
    (s.answer = .verified (.error (.missingChecksum s.before.fullLine)) ↔
        s.before.checksum = none) ∧
      ∀ stored ∈ s.before.checksum,
        s.answer = .verified (.ok (stored = (xorSum b.line.utf8).toUInt32)) ∧
          (256 ≤ stored → s.answer = .verified (.ok false))
  update : s.call = .update → s.after.checksum = some (xorSum b.line.utf8).toUInt32 ∧
    s.answer = .updated (xorSum b.line.utf8).toUInt32
  strip : s.call = .strip → s.after.checksum = none ∧ s.answer = .stripped s.before.checksum

namespace Block

theorem isLawful_step (b : Block) (checksum : Option UInt32) (call : ChecksumCall) :
    ((b.withChecksum checksum).step call).IsLawful b where
  lineNumber := by cases call <;> rfl
  command := by cases call <;> rfl
  parameters := by cases call <;> rfl
  comment := by cases call <;> rfl
  line := by cases call <;> rfl
  compute := by
    intro hcall
    obtain rfl : call = .compute := hcall
    exact ⟨rfl, rfl⟩
  verify := by
    intro hcall
    obtain rfl : call = .verify := hcall
    refine ⟨rfl, ?_, fun stored hstored => ⟨?_, fun hwide => ?_⟩⟩
    · have hmissing := (b.withChecksum checksum).verify_eq_missing_iff
      exact (ChecksumAnswer.verified.injEq _ _).to_iff.trans hmissing
    · exact congrArg ChecksumAnswer.verified (verify_of_some hstored)
    · exact congrArg ChecksumAnswer.verified (verify_of_wide hstored hwide)
  update := by
    intro hcall
    obtain rfl : call = .update := hcall
    exact ⟨rfl, rfl⟩
  strip := by
    intro hcall
    obtain rfl : call = .strip := hcall
    exact ⟨rfl, rfl⟩

/-- In every run of checksum calls, whatever block it starts with, nothing but
the stored checksum changes, and all answers are about one computed checksum. A
verification finds a wrong one neither on a block that was validated nor after
an update or a strip. -/
theorem run_isLawful (b : Block) (calls : List ChecksumCall) :
    (∀ s ∈ b.run calls, s.IsLawful b) ∧ (xorSum b.line.utf8).toUInt32 < 256 ∧
      (∀ b₀, validated b₀ = .ok b → ∀ s ∈ b.run calls, s.answer ≠ .verified (.ok false)) ∧
      (b.run calls).Pairwise fun s t =>
        s.call = .update ∨ s.call = .strip → t.answer ≠ .verified (.ok false) := by
  refine ⟨fun s hs => ?_, xorSum_toUInt32_lt _, fun b₀ h => ?_, b.pairwise_run calls⟩
  · obtain ⟨checksum, call, rfl⟩ := exists_step_of_mem_run hs
    exact b.isLawful_step checksum call
  · exact (hasRightChecksum_of_validated h).run

theorem run_isLawful_validated :
    validated ⟨some 3, .addressed ⟨'T', by decide⟩ (.int32 0), [], some 57, some ";A".toList⟩ =
        .ok ⟨some 3, .addressed ⟨'T', by decide⟩ (.int32 0), [], some 57, some ";A".toList⟩ ∧
      ∀ s ∈ run ⟨some 3, .addressed ⟨'T', by decide⟩ (.int32 0), [], some 57, some ";A".toList⟩
          [.verify, .strip, .verify, .update, .verify], s.answer ≠ .verified (.ok false) := by
  have h : validated ⟨some 3, .addressed ⟨'T', by decide⟩ (.int32 0), [], some 57,
      some ";A".toList⟩ = .ok ⟨some 3, .addressed ⟨'T', by decide⟩ (.int32 0), [], some 57,
        some ";A".toList⟩ := by rfl
  exact ⟨h, (run_isLawful _ _).2.2.1 _ h⟩

/-- The checksum here is too wide for a digest, as it may be in a line. -/
example :
    (run ⟨some 3, .addressed ⟨'T', by decide⟩ (.int32 0), [], some 313, none⟩
      [.verify, .compute, .update, .verify, .strip, .verify]).map ChecksumStep.answer =
      [.verified (.ok false), .computed (.checksum 57), .updated 57, .verified (.ok true),
        .stripped (some 57), .verified (.error (.missingChecksum "N3 T0".toList))] := by
  rfl

end Block

end NCBlock
