import NCBlock.Proofs.Block.Refusal
import NCBlock.Proofs.Document.Validation
import NCBlock.Proofs.Document.Written

/-!
Validation and formatting agree on which documents can be read. A formatting
ends at the first line that is no block, and this line is the first of which a
validation says so. A wrong checksum is an error of a validation too, but it
does not end a formatting; its wording tells it apart from all other errors.
-/

namespace NCBlock

open Document

/-! ### What a diagnostic is about -/

/-- The diagnostic says that a stored checksum is wrong. This is read off its message. -/
def Diagnostic.IsMismatch (x : Diagnostic) : Prop :=
  ∃ stored computed, x.message = (Error.checksumMismatch stored computed).message

/-- The diagnostic is an error, and not for a wrong checksum. -/
def Diagnostic.IsUnreadable (x : Diagnostic) : Prop := x.severity = .error ∧ ¬x.IsMismatch

/-- The first diagnostic of a report that is an error other than a wrong checksum. -/
def Report.FirstUnreadable (r : Report) (x : Diagnostic) : Prop :=
  ∃ before after, r.diagnostics = before ++ x :: after ∧ x.IsUnreadable ∧
    ∀ y ∈ before, ¬y.IsUnreadable

namespace Report

variable {r s : Report} {x : Diagnostic}

theorem firstUnreadable_merge_left (hr : r.diagnostics = [x]) (hx : x.IsUnreadable) :
    (r.merge s).FirstUnreadable x := by
  refine ⟨[], s.diagnostics, ?_, hx, fun y hy => absurd hy List.not_mem_nil⟩
  rw [merge, hr, List.nil_append, List.singleton_append]

theorem FirstUnreadable.merge_right (hr : ∀ y ∈ r.diagnostics, ¬y.IsUnreadable)
    (hs : s.FirstUnreadable x) : (r.merge s).FirstUnreadable x := by
  obtain ⟨before, after, hsplit, hx, hbefore⟩ := hs
  refine ⟨r.diagnostics ++ before, after, ?_, hx, fun y hy => ?_⟩
  · rw [merge, hsplit, List.append_assoc]
  · rcases List.mem_append.1 hy with hy | hy
    · exact hr y hy
    · exact hbefore y hy

end Report

/-- The line holds a block with a checksum that is not the one of the block. -/
def Document.IsMismatched (l : Text) : Prop :=
  ∃ b stored, Block.parse l = .ok b ∧ b.checksum = some stored ∧
    stored ≠ (xorSum b.line.utf8).toUInt32

theorem Error.IsReading.isUnreadable {e : Error} (h : e.IsReading) (number : Nat) :
    Diagnostic.IsUnreadable ⟨number, e.message, .error⟩ :=
  ⟨rfl, fun ⟨stored, computed, heq⟩ => h.message_ne_mismatch stored computed heq⟩

namespace Document

variable {f : Text} {mode : ChecksumMode} {requireChecksum : Bool} {number : Nat} {l w : Text}

/-- A diagnostic says that a checksum is wrong exactly where one is. -/
theorem Remark.isMismatch_iff {severity : Severity} {message : Text}
    (h : Remark requireChecksum l severity message) :
    Diagnostic.IsMismatch ⟨number, message, severity⟩ ↔ IsMismatched l := by
  -- the line is no block, its checksum is wrong, or it has none
  rcases h with ((⟨-, herror⟩ | ⟨hok, hstored, hne⟩) | ⟨-, b, hok, hnone⟩)
  · refine ⟨fun ⟨stored, computed, heq⟩ => ?_, fun ⟨b, stored, hok, _⟩ => ?_⟩
    · exact absurd heq ((Block.isReading_of_parse herror).message_ne_mismatch stored computed)
    · rw [herror] at hok
      cases hok
  · exact ⟨fun _ => ⟨_, _, hok, hstored, hne⟩, fun _ => ⟨_, _, rfl⟩⟩
  · refine ⟨fun ⟨stored, computed, heq⟩ => ?_, fun ⟨b', stored, hok', hstored, _⟩ => ?_⟩
    · have hhead : some 'b' = some 'c' := congrArg List.head? heq
      cases hhead
    · rw [hok] at hok'
      cases hok'
      rw [hnone] at hstored
      cases hstored

/-! ### One line -/

theorem not_isUnreadable_of_formatLine (h : formatLine f mode l = .ok w) :
    ∀ x ∈ (validateLine requireChecksum number l).diagnostics, ¬x.IsUnreadable := by
  rintro x hx ⟨herror, hmismatch⟩
  have hline := line_of_mem_validateLine hx
  obtain ⟨line, message, severity⟩ := x
  obtain rfl : line = number := hline
  obtain rfl : severity = .error := herror
  have hremark := mem_validateLine_iff.1 hx
  rw [hremark.isMismatch_iff] at hmismatch
  rcases hremark with ⟨⟨hpass, herror⟩ | ⟨hok, hstored, hne⟩⟩
  · rw [formatLine_eq_error_iff.2 ⟨hpass, herror⟩] at h
    cases h
  · exact hmismatch ⟨_, _, hok, hstored, hne⟩

theorem validateLine_of_formatLine_error {e : Error} (h : formatLine f mode l = .error e) :
    (validateLine requireChecksum number l).diagnostics = [⟨number, e.message, .error⟩] ∧
      Diagnostic.IsUnreadable ⟨number, e.message, .error⟩ := by
  obtain ⟨hpass, hparse⟩ := formatLine_eq_error_iff.1 h
  rw [validateLine_of_error hpass hparse]
  exact ⟨rfl, (Block.isReading_of_parse hparse).isUnreadable number⟩

/-! ### All lines -/

theorem not_isUnreadable_of_formatLines {ls : List Text} {out : Text}
    (h : formatLines f mode number ls = .ok out) :
    ∀ x ∈ (validateLines requireChecksum number ls).diagnostics, ¬x.IsUnreadable := by
  induction ls generalizing number out with
  | nil => exact fun x hx => absurd hx List.not_mem_nil
  | cons l ls ih =>
      cases hl : formatLine f mode l with
      | error e =>
          rw [formatLines_cons_of_error hl] at h
          cases h
      | ok w =>
          rw [formatLines_cons_of_ok hl] at h
          obtain ⟨more, hmore, -⟩ := Except.map_eq_ok_iff.1 h
          intro x hx
          rcases List.mem_append.1 hx with hx | hx
          · exact not_isUnreadable_of_formatLine hl x hx
          · exact ih hmore x hx

/-- The line at which a formatting ends is the first that a validation refuses
to read. -/
theorem firstUnreadable_of_formatLines (requireChecksum : Bool) {ls : List Text} {e : LineError}
    (h : formatLines f mode number ls = .error e) :
    (validateLines requireChecksum number ls).FirstUnreadable
      ⟨e.line, e.cause.message, .error⟩ := by
  induction ls generalizing number with
  | nil => cases h
  | cons l ls ih =>
      rw [validateLines]
      cases hl : formatLine f mode l with
      | error cause =>
          rw [formatLines_cons_of_error hl] at h
          cases h
          obtain ⟨hdiagnostics, hunreadable⟩ := validateLine_of_formatLine_error hl
          exact Report.firstUnreadable_merge_left hdiagnostics hunreadable
      | ok w =>
          rw [formatLines_cons_of_ok hl, Except.map_eq_error_iff] at h
          exact (ih h).merge_right (not_isUnreadable_of_formatLine hl)

theorem isMismatch_iff_of_mem {d : Text} {x : Diagnostic}
    (h : x ∈ (validate requireChecksum d).diagnostics) :
    x.IsMismatch ↔ ∃ l, (lines d)[x.line - 1]? = some l ∧ IsMismatched l := by
  have hdescribes := describes_validateLines requireChecksum 1 (lines d)
  obtain ⟨hlow, hhigh⟩ := hdescribes.inside x h
  obtain ⟨i, hi⟩ := Nat.exists_eq_add_of_le hlow
  have hlt : i < (lines d).length := by omega
  obtain ⟨line, message, severity⟩ := x
  obtain rfl : line = 1 + i := hi
  have hline : (lines d)[i]? = some (lines d)[i] := List.getElem?_eq_getElem hlt
  have hremark := (hdescribes.mem_iff i _ hline severity message).1 h
  rw [hremark.isMismatch_iff, Nat.add_sub_cancel_left, hline]
  simp

/-- Whatever the format is and whatever happens to the checksums, a document
cannot be written anew exactly when a validation reports an error that is no
wrong checksum, and the first such error is the one that ends the formatting. -/
theorem format_error_iff_unreadable (f : Text) (mode : ChecksumMode) (requireChecksum : Bool)
    (d : Text) :
    ((∃ e, format f mode d = .error e) ↔
        ∃ x ∈ (validate requireChecksum d).diagnostics, x.IsUnreadable) ∧
      (∀ e, format f mode d = .error e →
        (validate requireChecksum d).FirstUnreadable ⟨e.line, e.cause.message, .error⟩) ∧
      ∀ x ∈ (validate requireChecksum d).diagnostics,
        x.IsMismatch ↔ ∃ l, (lines d)[x.line - 1]? = some l ∧ IsMismatched l := by
  refine ⟨⟨?_, ?_⟩, fun e => firstUnreadable_of_formatLines requireChecksum,
    fun x => isMismatch_iff_of_mem⟩
  · rintro ⟨e, h⟩
    obtain ⟨before, after, hsplit, hunreadable, -⟩ :=
      firstUnreadable_of_formatLines requireChecksum h
    exact ⟨_, hsplit ▸ List.mem_append_right before List.mem_cons_self, hunreadable⟩
  · rintro ⟨x, hx, hunreadable⟩
    cases h : format f mode d with
    | error e => exact ⟨e, rfl⟩
    | ok out => exact absurd hunreadable (not_isUnreadable_of_formatLines h x hx)

/-- A wrong checksum in the second line, and the first line that is no block after it. -/
example :
    (validate false "; head\nN3 T0*1\nK5\nG1 .\n".toList).diagnostics =
        [⟨2, "checksum mismatch: stored *1, computed *57".toList, .error⟩,
          ⟨3, "invalid word 'K' (0x4B)".toList, .error⟩,
          ⟨4, "undefined symbols '.'".toList, .error⟩] ∧
      format "%c".toList .update "; head\nN3 T0*1\nK5\nG1 .\n".toList =
        .error ⟨3, .invalidWord 0x4B⟩ := by
  decide +kernel

end Document

end NCBlock
