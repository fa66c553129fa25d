import NCBlock.Proofs.Block.Readable

/-!
Equality by value. It is coarser than identity only where floats are compared,
since the two zeros are equal, and it is not reflexive on a NaN. Readable
blocks hold finite floats only, so neither matters to them.
-/

namespace NCBlock

namespace Binary32

theorem sameValue_self {v : Binary32} (h : v.isFinite = true) : v.sameValue v = true := by
  simp only [isFinite, decide_eq_true_eq] at h
  have hnan : v.isNaN = false := by
    simp only [isNaN, decide_eq_false_iff_not]
    omega
  simp [sameValue, hnan]

theorem isFinite_of_sameValue {v w : Binary32} (hv : v.isFinite = true)
    (h : v.sameValue w = true) : w.isFinite = true := by
  simp only [sameValue, Bool.and_eq_true, Bool.or_eq_true, beq_iff_eq] at h
  -- equal values are identical or two zeros
  obtain ⟨-, hbits | ⟨-, hzero⟩⟩ := h
  · rwa [isFinite, magnitude, ← hbits]
  · rw [isFinite, hzero]
    decide

end Binary32

namespace Gcode

theorem sameValue_cases {g h : Gcode} (heq : g.sameValue h = true) :
    g = h ∨ ∃ w u v, g = .addressed w (.float32 u) ∧ h = .addressed w (.float32 v) ∧
      u.sameValue v = true := by
  cases g with
  | bare w => exact .inl (by simpa [sameValue] using heq)
  | addressed w a =>
      cases h with
      | bare v => simp [sameValue] at heq
      | addressed v a' =>
          simp only [sameValue, Bool.and_eq_true, decide_eq_true_eq] at heq
          obtain ⟨rfl, heq⟩ := heq
          cases a with
          | float32 u =>
              cases a' with
              | float32 u' => exact .inr ⟨w, u, u', rfl, rfl, heq⟩
              | _ => simp [Address.sameValue] at heq
          | _ =>
              left
              simpa [Address.sameValue] using heq

theorem Readable.sameValue_self {g : Gcode} (h : g.Readable) : g.sameValue g = true := by
  cases g with
  | bare w => simp [sameValue]
  | addressed w a =>
      cases a with
      | float32 v => simp [sameValue, Address.sameValue, Binary32.sameValue_self h.2]
      | _ => simp [sameValue, Address.sameValue]

theorem Readable.of_sameValue {g h : Gcode} (hg : g.Readable) (heq : g.sameValue h = true) :
    h.Readable := by
  rcases sameValue_cases heq with rfl | ⟨w, u, v, rfl, rfl, hvalue⟩
  · exact hg
  · exact ⟨hg.1, Binary32.isFinite_of_sameValue hg.2 hvalue⟩

theorem eq_of_sameValue_count {g : Gcode} {w : Word} {n : UInt32}
    (h : g.sameValue (.addressed w (.uint32 n)) = true) : g = .addressed w (.uint32 n) := by
  rcases sameValue_cases h with rfl | ⟨_, _, _, -, heq, -⟩
  · rfl
  · cases heq

end Gcode

namespace Block

variable {b c : Block}

theorem forall₂_sameValue (h : c.sameValue b = true) :
    List.Forall₂ (fun g g' => Gcode.sameValue g g' = true) c.gcodes b.gcodes := by
  simp only [sameValue, Bool.and_eq_true, decide_eq_true_eq, List.all_eq_true] at h
  obtain ⟨⟨⟨⟨⟨-, hcommand⟩, hlength⟩, hparameters⟩, -⟩, -⟩ := h
  exact .cons hcommand (List.forall₂_iff_zip.2 ⟨hlength, fun hmem => hparameters _ hmem⟩)

theorem Readable.sameValue_self (h : b.Readable) : b.sameValue b = true := by
  have hself (g : Gcode) (hg : g ∈ b.gcodes) := (h.gcodes g hg).sameValue_self
  have hparameters : List.Forall₂ (fun g g' => Gcode.sameValue g g' = true) b.parameters
      b.parameters :=
    List.forall₂_same.2 fun g hg => hself g (List.mem_cons_of_mem _ hg)
  simp only [sameValue, hself b.command List.mem_cons_self, decide_true, Bool.true_and,
    Bool.and_true, List.all_eq_true]
  exact fun p hp => (List.forall₂_iff_zip.1 hparameters).2 hp

/-- A block that equals a readable one by value is readable too. -/
theorem Readable.of_sameValue (hc : c.Readable) (h : c.sameValue b = true) : b.Readable := by
  have hrel := forall₂_sameValue h
  simp only [sameValue, Bool.and_eq_true, decide_eq_true_eq] at h
  obtain ⟨⟨⟨⟨⟨hnumber, hcommand⟩, -⟩, -⟩, hchecksum⟩, hcomment⟩ := h
  refine ⟨fun g hg => ?_, fun hnone n heq => ?_, fun hnone n hlast => ?_, hcomment ▸ hc.comment⟩
  · obtain ⟨g', hg', hvalue⟩ := exists_rel_of_mem hrel hg
    exact (hc.gcodes g' hg').of_sameValue hvalue
  · rw [heq] at hcommand
    exact hc.command (hnumber.trans hnone) n (Gcode.eq_of_sameValue_count hcommand)
  · obtain ⟨g, hg, hvalue⟩ := exists_rel_of_getLast? hrel hlast
    rw [Gcode.eq_of_sameValue_count hvalue] at hg
    exact hc.last (hchecksum.trans hnone) n hg

end Block

end NCBlock
