import NCBlock.Block.Checksum
import NCBlock.Block.Text
import NCBlock.Proofs.Line.Cuts

/-!
A comment and the rest of its line. The normal form of what stands before the
first semicolon is the same with the comment and without it, up to blanks that
go with the comment when it is cut off. So both lines are read in the same way,
for every dialect, and the blocks differ in their comments only.
-/

namespace NCBlock

namespace Line

variable {l w : Text}

/-! ### The normal form of a line with a comment -/

theorem allBlank_flatten (hw : w.AllBlank) : (flatten w).AllBlank := by
  intro c hc
  obtain ⟨d, hd, rfl⟩ := List.mem_map.1 hc
  rw [isBlank_flat]
  exact hw d hd

theorem exists_normalize_append (l c : Text) : ∃ w rest, w.AllBlank ∧
    normalize (l ++ ';' :: c) = normalize l ++ w ++ ';' :: rest := by
  have hsolid : isBlank ';' = false := by decide
  obtain ⟨w, hw, hsplit⟩ := Text.exists_trimEnd_append (Text.trimStart l)
  have htrim : Text.trim (l ++ ';' :: c) = Text.trim l ++ (w ++ ';' :: Text.trimEnd c) := by
    rw [Text.trim_append_cons hsolid, ← List.append_assoc, Text.trim, hsplit]
  have hupper (r : Text) : Text.upperCase (w ++ ';' :: r) = w ++ ';' :: Text.upperCase r := by
    rw [Text.upperCase_append, upperCase_of_blank hw]
    rfl
  have hstop := solidEnd_upperCase (Text.trimmed_trim l).stop
  have hstart (r : Text) : Text.SolidStart (';' :: r) := Text.solidStart_cons.2 hsolid
  refine ⟨flatten (squeeze w), flatten (squeeze (Text.upperCase (Text.trimEnd c))),
    allBlank_flatten (allBlank_squeeze hw), ?_⟩
  rw [normalize, htrim, Text.upperCase_append, hupper, squeeze_append (.inl hstop),
    squeeze_append (.inr (hstart _)), squeeze_cons_of_solid hsolid]
  simp [normalize, flatten, isLineControl]

theorem mem_of_mem_trim {t : Text} {c : Char} (h : c ∈ Text.trim t) : c ∈ t := by
  obtain ⟨v, w, -, -, heq⟩ := Text.exists_trim_append t
  rw [heq]
  exact List.mem_append_left w (List.mem_append_right v h)

/-- A normal form holds no semicolon that the line does not hold. -/
theorem mem_of_mem_normalize (h : ';' ∈ normalize l) : ';' ∈ l := by
  rcases (mem_of_mem_flatten h).1 with hsqueezed | heq
  · rcases mem_of_mem_squeeze hsqueezed with hupper | heq
    · obtain ⟨d, hd, hcapital⟩ := List.mem_flatMap.1 hupper
      rw [eq_of_mem_capitals hcapital (by decide)]
      exact mem_of_mem_trim hd
    · cases heq
  · cases heq

/-! ### The sections of a line with a comment -/

theorem exists_sections_append (hl : ';' ∉ l) (c : Text) : ∃ rest,
    sections (normalize (l ++ ';' :: c)) =
      (sections (normalize l)).map fun parts => { parts with comment := some (';' :: rest) } := by
  obtain ⟨w, rest, hw, heq⟩ := exists_normalize_append l c
  have hmem : ';' ∉ normalize l := fun h => hl (mem_of_mem_normalize h)
  have hbefore : ';' ∉ normalize l ++ w := by
    rw [List.mem_append, not_or]
    exact ⟨hmem, fun h => absurd (hw _ h) (by decide)⟩
  have hbreak : '\n' ∉ rest := by
    intro h
    have hflat := (isNormal_normalize (l ++ ';' :: c)).flat '\n' (by simp [heq, h])
    exact absurd hflat (by decide)
  refine ⟨rest, ?_⟩
  rw [heq, sections, sections, cutComment_append hbefore hbreak, cutComment_of_not_mem hmem,
    Text.trimEnd_append_of_blank hw]
  dsimp only
  split
  · rfl
  · split <;> rfl

end Line

namespace Block

open Line

variable {l : Text}

theorem exists_parseWith_append (hl : ';' ∉ l) (c : Text) : ∃ rest, ∀ {σ : Type}
    (dialect : Dialect σ) (s : σ), parseWith dialect (l ++ ';' :: c) s =
      ((parseWith dialect l s).1.map fun b => { b with comment := some (';' :: rest) },
        (parseWith dialect l s).2) := by
  obtain ⟨rest, hsections⟩ := exists_sections_append hl c
  refine ⟨rest, fun dialect s => ?_⟩
  rw [parseWith, parseWith, hsections]
  cases sections (normalize l) with
  | error e => rfl
  | ok parts =>
      simp only [Except.map]
      split
      · rfl
      · split <;> rfl

/-- What stands behind the first semicolon has no say in whether a line is read,
in the error if it is not, or in anything of the block but its comment. -/
theorem parse_append_comment (l c : Text) (hl : ';' ∉ l) :
    (∀ e, parse (l ++ ';' :: c) = .error e ↔ parse l = .error e) ∧
    ∀ b, parse l = .ok b → ∃ b', parse (l ++ ';' :: c) = .ok b' ∧
      b'.lineNumber = b.lineNumber ∧ b'.command = b.command ∧ b'.parameters = b.parameters ∧
      b'.checksum = b.checksum ∧ b'.computedChecksum = b.computedChecksum ∧
      (b.checksum ≠ none → b'.verify = b.verify) ∧ ∃ rest, b'.comment = some (';' :: rest) := by
  obtain ⟨rest, hparse⟩ := exists_parseWith_append hl c
  have hread : parse (l ++ ';' :: c) =
      (parse l).map fun b => { b with comment := some (';' :: rest) } :=
    congrArg Prod.fst (hparse .stock ())
  refine ⟨fun e => ?_, fun b hb => ?_⟩
  · rw [hread, Except.map_eq_error_iff]
  · refine ⟨{ b with comment := some (';' :: rest) }, ?_, rfl, rfl, rfl, rfl, rfl, ?_, rest, rfl⟩
    · rw [hread, hb]
      rfl
    · intro hstored
      obtain ⟨stored, hstored⟩ := Option.ne_none_iff_exists'.1 hstored
      simp only [verify, verifyWith, hstored]
      rfl

/-- The comment holds another semicolon, a line break, and what would be a checksum. -/
theorem parse_append_comment_broken :
    ';' ∉ "n3 t0 *57  ".toList ∧
      ∃ b b', parse "n3 t0 *57  ".toList = .ok b ∧
        parse "n3 t0 *57  ; \"a;b\n*9".toList = .ok b' ∧ b'.checksum = b.checksum ∧
        b'.verify = b.verify ∧ b'.comment = some "; \"A;B *9".toList := by
  have hl : ';' ∉ "n3 t0 *57  ".toList := by decide
  have hparse : parse "n3 t0 *57  ".toList =
      .ok ⟨some 3, .addressed ⟨'T', by decide⟩ (.int32 0), [], some 57, none⟩ := by
    decide +kernel
  have hjoined : parse "n3 t0 *57  ; \"a;b\n*9".toList =
      .ok ⟨some 3, .addressed ⟨'T', by decide⟩ (.int32 0), [], some 57,
        some "; \"A;B *9".toList⟩ := by
    decide +kernel
  obtain ⟨b', hb', -, -, -, hchecksum, -, hverify, -⟩ :=
    (parse_append_comment "n3 t0 *57  ".toList " \"a;b\n*9".toList hl).2 _ hparse
  obtain rfl := Except.ok.inj (hjoined.symm.trans hb')
  exact ⟨hl, _, _, hparse, hjoined, hchecksum, hverify (by decide), rfl⟩

end Block

end NCBlock
