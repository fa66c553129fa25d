import NCBlock.Proofs.Document.Validation
import NCBlock.Proofs.Document.Written

/-!
Documents in two parts. When the first part stops at the end of a line, the
lines of the whole are the lines of the parts. A line is judged and written on
its own, so the same holds of what is reported and of what is written, except
that the lines of the second part are counted on from those of the first.
-/

namespace NCBlock

/-! ### Line numbers counted on -/

def Diagnostic.shift (n : Nat) (x : Diagnostic) : Diagnostic := { x with line := x.line + n }

def Report.shift (n : Nat) (r : Report) : Report :=
  { r with diagnostics := r.diagnostics.map (Diagnostic.shift n) }

def LineError.shift (n : Nat) (e : LineError) : LineError := { e with line := e.line + n }

namespace Report

variable {n : Nat} (r s t : Report)

@[simp] theorem empty_merge : empty.merge r = r := by
  simp [merge, empty]

@[simp] theorem merge_assoc : (r.merge s).merge t = r.merge (s.merge t) := by
  simp [merge, Nat.add_assoc]

@[simp] theorem shift_empty : empty.shift n = empty := rfl

@[simp] theorem shift_merge : (r.merge s).shift n = (r.shift n).merge (s.shift n) := by
  simp [shift, merge]

end Report

namespace Document

/-! ### Splitting -/

/-- The document is empty or its last line is ended. -/
def IsEnded (d : Text) : Prop := d = [] ∨ d.getLast? = some '\n'

instance (d : Text) : Decidable (IsEnded d) :=
  inferInstanceAs (Decidable (d = [] ∨ d.getLast? = some '\n'))

/-- An ended document is made of lines that are ended one by one. -/
theorem IsEnded.exists_joinLines {d : Text} (h : IsEnded d) :
    ∃ ts, (∀ t ∈ ts, '\n' ∉ t) ∧ d = joinLines ts := by
  obtain ⟨ts, rest, hts, hrest, rfl⟩ := exists_joinLines_append d
  have hnone : rest = [] := by
    rcases h with h | h
    · exact (List.append_eq_nil_iff.1 h).2
    · by_contra hne
      rw [List.getLast?_append_of_ne_nil _ hne] at h
      exact hrest (List.mem_of_getLast? h)
  exact ⟨ts, hts, by rw [hnone, List.append_nil]⟩

theorem IsEnded.lines_append {d : Text} (h : IsEnded d) (e : Text) :
    lines (d ++ e) = lines d ++ lines e := by
  obtain ⟨ts, hts, rfl⟩ := h.exists_joinLines
  rw [lines_joinLines_append hts, lines_joinLines hts]

/-! ### Reports -/

section

variable (requireChecksum : Bool) (number n : Nat)

theorem diagnostics_shift (b : Block) :
    b.diagnostics requireChecksum (number + n) =
      (b.diagnostics requireChecksum number).map (Diagnostic.shift n) := by
  rw [Block.diagnostics, Block.diagnostics]
  split
  · split <;> rfl
  · split <;> rfl

theorem validateLine_shift (l : Text) :
    validateLine requireChecksum (number + n) l =
      (validateLine requireChecksum number l).shift n := by
  cases hpass : isPassthrough l with
  | true =>
      rw [validateLine_of_isPassthrough hpass, validateLine_of_isPassthrough hpass,
        Report.shift_empty]
  | false =>
      cases hparse : Block.parse l with
      | error e =>
          rw [validateLine_of_error hpass hparse, validateLine_of_error hpass hparse]
          rfl
      | ok b =>
          rw [validateLine_of_ok hparse, validateLine_of_ok hparse, diagnostics_shift]
          rfl

theorem validateLines_shift (ls : List Text) :
    validateLines requireChecksum (number + n) ls =
      (validateLines requireChecksum number ls).shift n := by
  induction ls generalizing number with
  | nil => rfl
  | cons l ls ih =>
      rw [validateLines, validateLines, validateLine_shift, Nat.add_right_comm, ih,
        Report.shift_merge]

theorem validateLines_append (ls ms : List Text) :
    validateLines requireChecksum number (ls ++ ms) =
      (validateLines requireChecksum number ls).merge
        (validateLines requireChecksum (number + ls.length) ms) := by
  induction ls generalizing number with
  | nil => simp [validateLines]
  | cons l ls ih =>
      have hnumber : number + 1 + ls.length = number + (l :: ls).length := by
        rw [List.length_cons]
        omega
      rw [List.cons_append, validateLines, ih, hnumber, validateLines, Report.merge_assoc]

end

/-! ### Written documents -/

section

variable {f : Text} {mode : ChecksumMode} (number n : Nat)

theorem formatLines_shift (ls : List Text) :
    formatLines f mode (number + n) ls = (formatLines f mode number ls).mapError (·.shift n) := by
  induction ls generalizing number with
  | nil => rfl
  | cons l ls ih =>
      cases h : formatLine f mode l with
      | error e =>
          rw [formatLines_cons_of_error h, formatLines_cons_of_error h]
          rfl
      | ok w =>
          rw [formatLines_cons_of_ok h, formatLines_cons_of_ok h, Nat.add_right_comm, ih]
          cases formatLines f mode (number + 1) ls <;> rfl

theorem formatLines_append (ls ms : List Text) :
    formatLines f mode number (ls ++ ms) =
      (formatLines f mode number ls).bind fun out =>
        (formatLines f mode (number + ls.length) ms).map (out ++ ·) := by
  induction ls generalizing number with
  | nil =>
      change _ = (formatLines f mode number ms).map ([] ++ ·)
      cases h : formatLines f mode number ms <;> simp [h, Except.map]
  | cons l ls ih =>
      cases h : formatLine f mode l with
      | error e =>
          rw [List.cons_append, formatLines_cons_of_error h, formatLines_cons_of_error h]
          rfl
      | ok w =>
          have hnumber : number + 1 + ls.length = number + (l :: ls).length := by
            rw [List.length_cons]
            omega
          rw [List.cons_append, formatLines_cons_of_ok h, formatLines_cons_of_ok h, ih, hnumber]
          cases formatLines f mode (number + 1) ls with
          | error e => rfl
          | ok out =>
              cases formatLines f mode (number + (l :: ls).length) ms <;>
                simp [Except.map, Except.bind]

end

/-- A validation of two parts says of each what it says of it alone, and a
formatting writes one behind the other or ends with the first error of them. -/
theorem validate_format_append (d₁ d₂ : Text) (h : IsEnded d₁) :
    (∀ requireChecksum,
      (validate requireChecksum (d₁ ++ d₂)).diagnostics =
          (validate requireChecksum d₁).diagnostics ++
            (validate requireChecksum d₂).diagnostics.map (Diagnostic.shift (lines d₁).length) ∧
        (validate requireChecksum (d₁ ++ d₂)).blocks =
          (validate requireChecksum d₁).blocks + (validate requireChecksum d₂).blocks) ∧
    ∀ f mode, format f mode (d₁ ++ d₂) =
      match format f mode d₁, format f mode d₂ with
      | .ok out₁, .ok out₂ => .ok (out₁ ++ out₂)
      | .error e, _ => .error e
      | .ok _, .error e => .error (e.shift (lines d₁).length) := by
  constructor
  · intro requireChecksum
    have hreport : validate requireChecksum (d₁ ++ d₂) =
        (validate requireChecksum d₁).merge
          ((validate requireChecksum d₂).shift (lines d₁).length) := by
      rw [validate, h.lines_append, validateLines_append, validateLines_shift]
      rfl
    rw [hreport]
    exact ⟨rfl, rfl⟩
  · intro f mode
    have hwritten : format f mode (d₁ ++ d₂) =
        (format f mode d₁).bind fun out₁ =>
          ((format f mode d₂).mapError (·.shift (lines d₁).length)).map (out₁ ++ ·) := by
      rw [format, h.lines_append, formatLines_append, formatLines_shift]
      rfl
    rw [hwritten]
    cases format f mode d₁ with
    | error e => rfl
    | ok out₁ => cases format f mode d₂ <;> rfl

/-- The two errors in the parts are reported at their lines of the whole, and
the formatting ends with the one in the second part. -/
theorem validate_format_append_mixed_parts :
    IsEnded "; Head\r\nn3 t0*1\n\n".toList ∧
      (validate true ("; Head\r\nn3 t0*1\n\n".toList ++ "g28\nn 5 g1\r".toList)).diagnostics =
        [⟨2, "checksum mismatch: stored *1, computed *57".toList, .error⟩,
          ⟨4, "block has no checksum".toList, .warning⟩,
          ⟨5, "undefined symbols '5'".toList, .error⟩] ∧
      format Block.fullFormat .keep
          ("; Head\r\nn3 t0*1\n\n".toList ++ "g28\nn 5 g1\r".toList) =
        .error ⟨5, .undefinedSymbols ['5']⟩ := by
  have h : IsEnded "; Head\r\nn3 t0*1\n\n".toList := by decide +kernel
  obtain ⟨hreport, hformat⟩ := validate_format_append _ "g28\nn 5 g1\r".toList h
  refine ⟨h, ?_, ?_⟩
  · rw [(hreport true).1]
    decide +kernel
  · rw [hformat]
    decide +kernel

end Document

end NCBlock
