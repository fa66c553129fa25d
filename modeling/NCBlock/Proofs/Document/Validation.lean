import NCBlock.Document.Validate
import NCBlock.Proofs.Block.Grammar
import NCBlock.Proofs.Document.Lines

/-!
What a validation reports. Each line is judged on its own, and at most one
thing is said of it: that it is no block, that its checksum is wrong, or that
it has none. Lines that are passed over hold no block, so no block is missed.
-/

namespace NCBlock

open Line Document

/-! ### Lines that hold no block -/

/-- A line that is passed over has nothing before its comment, if it has one. -/
theorem Document.commentCut_of_isPassthrough {l : Text} (h : isPassthrough l = true) :
    ∃ comment, CommentCut (normalize l) comment [] := by
  rw [Line.normalize]
  rw [isPassthrough] at h
  cases htrim : Text.trim l with
  | nil => exact ⟨none, .absent List.not_mem_nil⟩
  | cons c rest =>
      rw [htrim] at h
      obtain rfl : c = ';' := of_decide_eq_true h
      have hupper : Text.upperCase (';' :: rest) = ';' :: Text.upperCase rest := by
        rw [← List.singleton_append, Text.upperCase_append]
        rfl
      rw [hupper, squeeze_cons_of_solid (by decide)]
      exact ⟨_, .present List.not_mem_nil⟩

theorem tokens_nil : tokens [] = .error (.noCommand []) := by
  rw [tokens, scan_nil]
  rfl

theorem Block.parseWith_stock (line : Text) : parseWith .stock line () = (parse line, ()) := rfl

theorem Block.parse_of_isPassthrough {l : Text} (h : isPassthrough l = true) :
    parse l = .error (.noCommand []) := by
  obtain ⟨comment, hcut⟩ := commentCut_of_isPassthrough h
  have hsections : sections (normalize l) = .ok ⟨none, none, comment, []⟩ := by
    refine (sections_eq_ok_iff (isNormal_normalize l)).2 ⟨[], [], hcut, ?_, ?_⟩
    · exact .absent fun digits rest hopens => List.cons_ne_nil _ _ hopens.1.symm
    · refine .absent fun before digits hends => ?_
      exact List.append_ne_nil_of_right_ne_nil before (List.cons_ne_nil _ _) hends.1.symm
  rw [parse, parseWith, hsections]
  dsimp only
  rw [tokens_nil]

theorem Document.isPassthrough_of_parse {l : Text} {b : Block} (h : Block.parse l = .ok b) :
    isPassthrough l = false := by
  rw [← Bool.not_eq_true]
  intro hpass
  rw [Block.parse_of_isPassthrough hpass] at h
  cases h

/-- Nothing is read from the carriage return that may stand at the end of a line. -/
theorem Block.parse_chomp (t : Text) : parse (chomp t) = parse t := by
  rw [parse, parse, parseWith, parseWith, Line.normalize, Line.normalize, trim_chomp]

/-! ### What is said of a block -/

namespace Block

variable {b : Block} {stored : UInt32}

theorem diagnostics_of_none (h : b.checksum = none) (requireChecksum : Bool) (number : Nat) :
    b.diagnostics requireChecksum number =
      if requireChecksum then [⟨number, "block has no checksum".toList, .warning⟩] else [] := by
  rw [diagnostics, h]

theorem diagnostics_of_right (h : b.checksum = some b.computedChecksum) (requireChecksum : Bool)
    (number : Nat) : b.diagnostics requireChecksum number = [] := by
  rw [diagnostics, h]
  exact if_pos rfl

theorem diagnostics_of_wrong (h : b.checksum = some stored) (hne : stored ≠ b.computedChecksum)
    (requireChecksum : Bool) (number : Nat) :
    b.diagnostics requireChecksum number =
      [⟨number, (Error.checksumMismatch stored b.computedChecksum).message, .error⟩] := by
  rw [diagnostics, h, ← mismatchText_eq]
  exact if_neg hne

/-- A checksum that is stored is right or wrong. -/
theorem checksum_cases (b : Block) : b.checksum = none ∨
    b.checksum = some b.computedChecksum ∨
      ∃ stored, b.checksum = some stored ∧ stored ≠ b.computedChecksum := by
  cases b.checksum with
  | none => exact .inl rfl
  | some stored =>
      by_cases heq : stored = b.computedChecksum
      · exact .inr (.inl (congrArg some heq))
      · exact .inr (.inr ⟨stored, rfl, heq⟩)

end Block

namespace Document

/-! ### One line -/

variable {requireChecksum : Bool} {number : Nat} {l : Text}

/-- A validation knows of a line only whether it is passed over and what it is
read as. -/
theorem validateLine_congr {w : Text} (hpass : isPassthrough w = isPassthrough l)
    (hparse : Block.parse w = Block.parse l) :
    validateLine requireChecksum number w = validateLine requireChecksum number l := by
  rw [validateLine, validateLine, validateLineWith, validateLineWith, hpass, Block.parseWith_stock,
    Block.parseWith_stock, hparse]

theorem validateLine_of_isPassthrough (h : isPassthrough l = true) :
    validateLine requireChecksum number l = .empty := by
  rw [validateLine, validateLineWith, if_pos h]

theorem validateLine_of_error {e : Error} (hpass : isPassthrough l = false)
    (h : Block.parse l = .error e) :
    validateLine requireChecksum number l = ⟨[⟨number, e.message, .error⟩], 0⟩ := by
  rw [validateLine, validateLineWith, hpass, if_neg Bool.false_ne_true, Block.parseWith_stock, h]

theorem validateLine_of_ok {b : Block} (h : Block.parse l = .ok b) :
    validateLine requireChecksum number l = ⟨b.diagnostics requireChecksum number, 1⟩ := by
  rw [validateLine, validateLineWith, isPassthrough_of_parse h, if_neg Bool.false_ne_true,
    Block.parseWith_stock, h]

/-- What is wrong with a line, and how it is worded. -/
inductive Fault (l : Text) : Text → Prop
  | unreadable {e : Error} : isPassthrough l = false → Block.parse l = .error e →
      Fault l e.message
  | mismatch {b : Block} {stored : UInt32} : Block.parse l = .ok b → b.checksum = some stored →
      stored ≠ (xorSum b.line.utf8).toUInt32 →
      Fault l (Error.checksumMismatch stored (xorSum b.line.utf8).toUInt32).message

/-- The line holds a block, but nothing guards it. -/
def IsUnguarded (l : Text) : Prop := ∃ b, Block.parse l = .ok b ∧ b.checksum = none

/-- What a validation says of a line. A missing checksum is no fault, and it is
mentioned only where one is required. -/
inductive Remark (requireChecksum : Bool) (l : Text) : Severity → Text → Prop
  | fault {message : Text} : Fault l message → Remark requireChecksum l .error message
  | unguarded : requireChecksum = true → IsUnguarded l →
      Remark requireChecksum l .warning "block has no checksum".toList

theorem Remark.isPassthrough {severity : Severity} {message : Text}
    (h : Remark requireChecksum l severity message) : isPassthrough l = false := by
  rcases h with ((⟨hpass, -⟩ | ⟨hok, -⟩) | ⟨-, b, hok, -⟩)
  · exact hpass
  · exact isPassthrough_of_parse hok
  · exact isPassthrough_of_parse hok

theorem remark_iff_of_error {e : Error} (hpass : isPassthrough l = false)
    (h : Block.parse l = .error e) {severity : Severity} {message : Text} :
    Remark requireChecksum l severity message ↔ severity = .error ∧ message = e.message := by
  constructor
  · rintro ((⟨-, herror⟩ | ⟨hok, -⟩) | ⟨-, b, hok, -⟩)
    · rw [h] at herror
      cases herror
      exact ⟨rfl, rfl⟩
    · rw [h] at hok
      cases hok
    · rw [h] at hok
      cases hok
  · rintro ⟨rfl, rfl⟩
    exact .fault (.unreadable hpass h)

theorem remark_iff_of_ok {b : Block} (h : Block.parse l = .ok b) {severity : Severity}
    {message : Text} : Remark requireChecksum l severity message ↔
      ⟨number, message, severity⟩ ∈ b.diagnostics requireChecksum number := by
  constructor
  · rintro ((⟨-, herror⟩ | ⟨hok, hstored, hne⟩) | ⟨hrequired, b', hok, hnone⟩)
    · rw [h] at herror
      cases herror
    · rw [h] at hok
      cases hok
      rw [Block.diagnostics_of_wrong hstored hne]
      exact List.mem_singleton_self _
    · rw [h] at hok
      cases hok
      rw [Block.diagnostics_of_none hnone, if_pos hrequired]
      exact List.mem_singleton_self _
  · intro hmem
    rcases b.checksum_cases with hnone | hright | ⟨stored, hstored, hne⟩
    · rw [Block.diagnostics_of_none hnone] at hmem
      cases requireChecksum with
      | true =>
          cases List.mem_singleton.1 hmem
          exact .unguarded rfl ⟨b, h, hnone⟩
      | false => cases hmem
    · rw [Block.diagnostics_of_right hright] at hmem
      cases hmem
    · rw [Block.diagnostics_of_wrong hstored hne] at hmem
      cases List.mem_singleton.1 hmem
      exact .fault (.mismatch h hstored hne)

theorem diagnostics_cases (b : Block) :
    b.diagnostics requireChecksum number = [] ∨
      ∃ message severity, b.diagnostics requireChecksum number = [⟨number, message, severity⟩] := by
  rcases b.checksum_cases with hnone | hright | ⟨stored, hstored, hne⟩
  · rw [Block.diagnostics_of_none hnone]
    cases requireChecksum with
    | true => exact .inr ⟨_, _, rfl⟩
    | false => exact .inl rfl
  · exact .inl (Block.diagnostics_of_right hright _ _)
  · exact .inr ⟨_, _, Block.diagnostics_of_wrong hstored hne _ _⟩

/-- At most one thing is said of a line. -/
theorem validateLine_cases (requireChecksum : Bool) (number : Nat) (l : Text) :
    (validateLine requireChecksum number l).diagnostics = [] ∨ ∃ message severity,
      (validateLine requireChecksum number l).diagnostics = [⟨number, message, severity⟩] := by
  cases hpass : isPassthrough l with
  | true => exact .inl (by rw [validateLine_of_isPassthrough hpass]; rfl)
  | false =>
      cases hparse : Block.parse l with
      | error e => exact .inr ⟨e.message, .error, by rw [validateLine_of_error hpass hparse]⟩
      | ok b =>
          rw [validateLine_of_ok hparse]
          exact diagnostics_cases b

theorem line_of_mem_validateLine {x : Diagnostic}
    (h : x ∈ (validateLine requireChecksum number l).diagnostics) : x.line = number := by
  rcases validateLine_cases requireChecksum number l with hnone | ⟨message, severity, hone⟩
  · rw [hnone] at h
    cases h
  · rw [hone] at h
    rw [List.mem_singleton.1 h]

theorem mem_validateLine_iff {severity : Severity} {message : Text} :
    ⟨number, message, severity⟩ ∈ (validateLine requireChecksum number l).diagnostics ↔
      Remark requireChecksum l severity message := by
  cases hpass : isPassthrough l with
  | true =>
      rw [validateLine_of_isPassthrough hpass]
      refine ⟨fun hmem => absurd hmem List.not_mem_nil, fun h => ?_⟩
      rw [h.isPassthrough] at hpass
      cases hpass
  | false =>
      cases hparse : Block.parse l with
      | error e =>
          rw [validateLine_of_error hpass hparse, remark_iff_of_error hpass hparse]
          simp [and_comm]
      | ok b => rw [validateLine_of_ok hparse, remark_iff_of_ok hparse]

theorem blocks_validateLine (requireChecksum : Bool) (number : Nat) (l : Text) :
    (validateLine requireChecksum number l).blocks = if (Block.parse l).isOk then 1 else 0 := by
  cases hparse : Block.parse l with
  | ok b =>
      rw [validateLine_of_ok hparse]
      rfl
  | error e =>
      cases hpass : isPassthrough l with
      | true =>
          rw [validateLine_of_isPassthrough hpass]
          rfl
      | false =>
          rw [validateLine_of_error hpass hparse]
          rfl

/-! ### All lines -/

/-- What a report of lines has to be, where `first` is the number of the first
line. Since the numbers rise there is at most one diagnostic for each line. -/
structure Describes (r : Report) (requireChecksum : Bool) (first : Nat) (ls : List Text) :
    Prop where
  blocks : r.blocks = ls.countP fun l => (Block.parse l).isOk
  increasing : (r.diagnostics.map Diagnostic.line).Pairwise (· < ·)
  inside : ∀ x ∈ r.diagnostics, first ≤ x.line ∧ x.line < first + ls.length
  mem_iff : ∀ (i : Nat) (l : Text), ls[i]? = some l → ∀ severity message,
    ⟨first + i, message, severity⟩ ∈ r.diagnostics ↔ Remark requireChecksum l severity message

theorem describes_nil : Describes .empty requireChecksum number [] where
  blocks := rfl
  increasing := .nil
  inside x hx := absurd hx List.not_mem_nil
  mem_iff i l h := by cases h

/-- A line before the others adds what is said of it. -/
theorem Describes.cons {r : Report} {ls : List Text}
    (h : Describes r requireChecksum (number + 1) ls) (l : Text) :
    Describes ((validateLine requireChecksum number l).merge r) requireChecksum number
      (l :: ls) where
  blocks := by
    rw [Report.merge, h.blocks, blocks_validateLine, List.countP_cons, Nat.add_comm]
  increasing := by
    rw [Report.merge, List.map_append]
    rcases validateLine_cases requireChecksum number l with hnone | ⟨message, severity, hone⟩
    · rw [hnone]
      exact h.increasing
    · rw [hone]
      refine List.pairwise_cons.2 ⟨fun n hn => ?_, h.increasing⟩
      obtain ⟨x, hx, rfl⟩ := List.mem_map.1 hn
      exact (h.inside x hx).1
  inside x hx := by
    rw [List.length_cons]
    rcases List.mem_append.1 hx with hx | hx
    · have hline := line_of_mem_validateLine hx
      omega
    · have hinside := h.inside x hx
      omega
  mem_iff i l' hi severity message := by
    rw [Report.merge, List.mem_append]
    cases i with
    | zero =>
        cases hi
        -- the other lines have higher numbers
        have hrest : ⟨number, message, severity⟩ ∉ r.diagnostics := fun hmem =>
          Nat.not_succ_le_self number (h.inside _ hmem).1
        simp only [Nat.add_zero, hrest, or_false]
        exact mem_validateLine_iff
    | succ i =>
        have hfirst : ⟨number + (i + 1), message, severity⟩ ∉
            (validateLine requireChecksum number l).diagnostics := by
          intro hmem
          have hline := line_of_mem_validateLine hmem
          dsimp only at hline
          omega
        have hshift : number + (i + 1) = number + 1 + i := by omega
        rw [List.getElem?_cons_succ] at hi
        simp only [hfirst, false_or]
        rw [hshift]
        exact h.mem_iff i l' hi severity message

theorem describes_validateLines (requireChecksum : Bool) (number : Nat) (ls : List Text) :
    Describes (validateLines requireChecksum number ls) requireChecksum number ls := by
  induction ls generalizing number with
  | nil => exact describes_nil
  | cons l ls ih => exact (ih (number + 1)).cons l

/-- A report is valid when no line has a fault, whatever is said besides. -/
theorem Describes.isValid_iff {r : Report} {ls : List Text}
    (h : Describes r requireChecksum number ls) :
    r.isValid = true ↔ ∀ l ∈ ls, ∀ message, ¬Fault l message := by
  rw [Report.isValid, List.all_eq_true]
  constructor
  · intro hall l hl message hfault
    obtain ⟨i, hi⟩ := List.mem_iff_getElem?.1 hl
    have hseverity := hall _ ((h.mem_iff i l hi .error message).2 (.fault hfault))
    simp at hseverity
  · intro hnone x hx
    obtain ⟨hlow, hhigh⟩ := h.inside x hx
    obtain ⟨i, hi⟩ := Nat.exists_eq_add_of_le hlow
    have hlt : i < ls.length := by omega
    obtain ⟨line, message, severity⟩ := x
    obtain rfl : line = number + i := hi
    have hremark := (h.mem_iff i ls[i] (List.getElem?_eq_getElem hlt) severity message).1 hx
    cases hremark with
    | fault hfault => exact absurd hfault (hnone _ (List.getElem_mem hlt) message)
    | unguarded => rfl

/-- A validation reports exactly the faults of a document and, where a checksum
is required, the blocks without one. -/
theorem validate_describes (requireChecksum : Bool) (d : Text) :
    Describes (validate requireChecksum d) requireChecksum 1 (lines d) ∧
      (∀ l, isPassthrough l = true → Block.parse l = .error (.noCommand [])) ∧
      ∀ other, (validate requireChecksum d).isValid = (validate other d).isValid := by
  have h (required : Bool) := describes_validateLines required 1 (lines d)
  refine ⟨h requireChecksum, fun l => Block.parse_of_isPassthrough, fun other => ?_⟩
  exact Bool.eq_iff_iff.2 ((h requireChecksum).isValid_iff.trans (h other).isValid_iff.symm)

/-- A comment, a block with the right checksum, a line that cannot be read, a
blank line, a block with a wrong checksum and one without. -/
def mixedDocument : Text := "; head\r\nN3 T0*57\nG1 X1 .0\n\r\nN5 G28*23\nG28".toList

def mixedLines : List Text :=
  ["; head".toList, "N3 T0*57".toList, "G1 X1 .0".toList, [], "N5 G28*23".toList, "G28".toList]

def mixedReport : Report where
  diagnostics :=
    [⟨3, "undefined symbols '.0'".toList, .error⟩,
      ⟨5, "checksum mismatch: stored *23, computed *22".toList, .error⟩,
      ⟨6, "block has no checksum".toList, .warning⟩]
  blocks := 3

theorem validate_describes_mixed_lines :
    Lined mixedDocument mixedLines ∧ validate true mixedDocument = mixedReport ∧
      Describes mixedReport true 1 mixedLines ∧ (validate false mixedDocument).isValid = false := by
  have hlined : Lined mixedDocument mixedLines := lines_eq_iff.1 (by decide +kernel)
  have hreport : validate true mixedDocument = mixedReport := by decide +kernel
  obtain ⟨hdescribes, -, hvalid⟩ := validate_describes true mixedDocument
  rw [hreport, hlined.lines_eq] at hdescribes
  rw [hreport] at hvalid
  exact ⟨hlined, hreport, hdescribes, (hvalid false).symm.trans rfl⟩

end Document

end NCBlock
