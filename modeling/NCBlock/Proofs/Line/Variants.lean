import NCBlock.Block.Text
import NCBlock.Proofs.Line.NormalForm

/-!
Ways of writing a line. The case of ASCII letters, the blanks around a line and
the length of a longer run of blanks inside it are lost in the normal form, so
lines that differ in nothing else have the same one, and are read alike.
-/

namespace NCBlock

/-! ### Letters in either case -/

theorem capitals_toUpper (c : Char) : capitals c.toUpper = capitals c := by
  by_cases h : 97 ≤ c.toNat ∧ c.toNat ≤ 122
  · have hletters : ∀ i : Fin 26,
        capitals (Char.ofNat (97 + i)).toUpper = capitals (Char.ofNat (97 + i)) := by decide
    have hc : Char.ofNat (97 + (c.toNat - 97)) = c := by
      rw [Nat.add_sub_cancel' h.1, Char.ofNat_toNat]
    have hletter := hletters ⟨c.toNat - 97, by omega⟩
    rwa [hc] at hletter
  · have hsame : c.toUpper = c := dif_neg h
    rw [hsame]

theorem capitals_eq_of_toUpper_eq {c d : Char} (h : c.toUpper = d.toUpper) :
    capitals c = capitals d := by
  rw [← capitals_toUpper c, h, capitals_toUpper]

namespace Line

/-- Texts that differ in the case of ASCII letters, and in the lengths of runs
of blanks that have two at least. -/
inductive SameRuns : Text → Text → Prop
  | nil : SameRuns [] []
  | char {c d : Char} {t u : Text} : c.toUpper = d.toUpper → SameRuns t u →
      SameRuns (c :: t) (d :: u)
  | run {v w t u : Text} : v.AllBlank → w.AllBlank → 2 ≤ v.length → 2 ≤ w.length →
      SameRuns t u → SameRuns (v ++ t) (w ++ u)

/-- Lines that differ in this and in the blanks around them. -/
inductive Variant : Text → Text → Prop
  | mk {v w v' w' t u : Text} : v.AllBlank → w.AllBlank → v'.AllBlank → w'.AllBlank →
      SameRuns t u → Variant (v ++ t ++ w) (v' ++ u ++ w')

/-! ### Runs of blanks -/

/-- A run of blanks is squeezed to a single one, and takes in a blank that follows it. -/
theorem exists_squeeze_append {w : Text} (hw : w.AllBlank) (hne : w ≠ []) (t : Text) :
    ∃ c, isBlank c = true ∧ squeeze (w ++ t) = c :: Text.trimStart (squeeze t) ∧
      (2 ≤ w.length → c = ' ') := by
  induction w with
  | nil => exact absurd rfl hne
  | cons c w ih =>
      obtain ⟨hc, hrest⟩ := Text.allBlank_cons.1 hw
      cases w with
      | nil =>
          rw [List.singleton_append, squeeze]
          split
          next hsqueeze => exact ⟨c, hc, by rw [hsqueeze, Text.trimStart_nil], by simp⟩
          next d kept hsqueeze =>
            rw [hsqueeze, hc, Bool.true_and]
            split
            next hd =>
              -- what is kept behind the blank `d` is solid at its start
              have hloose := loose_squeeze t
              rw [hsqueeze] at hloose
              have hkept : Text.SolidStart kept := by
                intro e he
                have hpair := (List.isChain_cons.1 hloose).1 e he
                rw [hd] at hpair
                simpa using hpair
              rw [Text.trimStart_cons_of_blank hd, Text.trimStart_of_solid hkept]
              exact ⟨' ', by decide, rfl, fun _ => rfl⟩
            next hd =>
              rw [Text.trimStart_cons_of_not_blank (by simpa using hd)]
              exact ⟨c, hc, rfl, by simp⟩
      | cons d w =>
          obtain ⟨e, he, heq, -⟩ := ih hrest (List.cons_ne_nil d w)
          refine ⟨' ', by decide, ?_, fun _ => rfl⟩
          rw [List.cons_append, squeeze, heq]
          simp [hc, he]

theorem squeeze_append_of_run {w : Text} (hw : w.AllBlank) (hlength : 2 ≤ w.length) (t : Text) :
    squeeze (w ++ t) = ' ' :: Text.trimStart (squeeze t) := by
  have hne : w ≠ [] := by
    rintro rfl
    simp at hlength
  obtain ⟨c, -, heq, hspace⟩ := exists_squeeze_append hw hne t
  rw [heq, hspace hlength]

theorem SameRuns.squeeze_upperCase {t u : Text} (h : SameRuns t u) :
    squeeze (Text.upperCase t) = squeeze (Text.upperCase u) := by
  induction h with
  | nil => rfl
  | @char c d t u hcase _ ih =>
      have hcons (e : Char) (s : Text) : Text.upperCase (e :: s) = capitals e ++ Text.upperCase s :=
        List.flatMap_cons
      rw [hcons, hcons, capitals_eq_of_toUpper_eq hcase]
      -- squeezing looks at what is put before a text and at the squeezed text only
      induction capitals d with
      | nil => exact ih
      | cons e es ihes => rw [List.cons_append, List.cons_append, squeeze, squeeze, ihes]
  | run hv hw hlength hlength' _ ih =>
      rw [Text.upperCase_append, Text.upperCase_append, upperCase_of_blank hv,
        upperCase_of_blank hw, squeeze_append_of_run hv hlength,
        squeeze_append_of_run hw hlength', ih]

/-! ### Blanks around a line -/

theorem trim_squeeze_upperCase (t : Text) :
    Text.trim (squeeze (Text.upperCase t)) = squeeze (Text.upperCase (Text.trim t)) := by
  obtain ⟨v, w, hv, hw, heq⟩ := Text.exists_trim_append t
  have htrim := Text.trimmed_trim t
  have hupper : Text.upperCase t = v ++ Text.upperCase (Text.trim t) ++ w := by
    conv_lhs => rw [heq]
    rw [Text.upperCase_append, Text.upperCase_append, upperCase_of_blank hv,
      upperCase_of_blank hw]
  by_cases hnil : Text.trim t = []
  · have hblank : (squeeze (v ++ w)).AllBlank :=
      allBlank_squeeze (Text.allBlank_append.2 ⟨hv, hw⟩)
    rw [hupper, hnil]
    simpa [Text.upperCase, squeeze] using Text.trim_eq_nil_iff.2 hblank
  · have hstart := solidStart_upperCase htrim.start
    have hstop := solidEnd_upperCase htrim.stop
    have hne : Text.upperCase (Text.trim t) ≠ [] := by
      cases htext : Text.trim t with
      | nil => exact absurd htext hnil
      | cons c s =>
          rw [Text.upperCase, List.flatMap_cons]
          exact List.append_ne_nil_of_left_ne_nil (capitals_ne_nil c) _
    rw [hupper, List.append_assoc, squeeze_append (.inr (hstart.append hne)),
      squeeze_append (.inl hstop), ← List.append_assoc]
    exact Text.trim_blank_append (allBlank_squeeze hv) (allBlank_squeeze hw)
      (trimmed_squeeze ⟨hstart, hstop⟩)

theorem normalize_eq (line : Text) :
    normalize line = flatten (Text.trim (squeeze (Text.upperCase line))) := by
  rw [normalize, trim_squeeze_upperCase]

theorem normalize_blank_append {v w : Text} (hv : v.AllBlank) (hw : w.AllBlank) (t : Text) :
    normalize (v ++ t ++ w) = normalize t := by
  rw [normalize, Text.trim_append_of_blank hw, Text.trim, Text.trimStart_append_of_blank hv,
    ← Text.trim, normalize]

theorem Variant.normalize_eq {s t : Text} (h : Variant s t) : normalize s = normalize t := by
  cases h with
  | mk hv hw hv' hw' hruns =>
      rw [normalize_blank_append hv hw, normalize_blank_append hv' hw', Line.normalize_eq,
        hruns.squeeze_upperCase, ← Line.normalize_eq]

/-! ### The normal form -/

theorem parseWith_normalize {σ : Type} (dialect : Dialect σ) (line : Text) (s : σ) :
    Block.parseWith dialect (normalize line) s = Block.parseWith dialect line s := by
  rw [Block.parseWith, Block.parseWith, (isNormal_normalize line).normalize]

/-- A normal form has no blank at its ends, no two side by side, and no tab or
line break. It is its own normal form and is read as the line is, and all ways
of writing a line share it. -/
theorem normalize_is_normal (s : Text) :
    (normalize s).Trimmed ∧ (normalize s).Loose ∧
      ('\t' ∉ normalize s ∧ '\r' ∉ normalize s ∧ '\n' ∉ normalize s) ∧
      normalize (normalize s) = normalize s ∧
      Block.parse (normalize s) = Block.parse s ∧
      ∀ t, Variant s t → normalize s = normalize t := by
  have hnormal := isNormal_normalize s
  have hflat {c : Char} (hc : isLineControl c = true) : c ∉ normalize s := by
    intro hmem
    rw [hnormal.flat c hmem] at hc
    cases hc
  exact ⟨hnormal.trimmed, hnormal.loose, ⟨hflat rfl, hflat rfl, hflat rfl⟩, hnormal.normalize,
    congrArg Prod.fst (parseWith_normalize .stock s ()), fun t h => h.normalize_eq⟩

/-- A run of tabs and breaks against one of spaces. The single wide space stays as it is. -/
theorem normalize_is_normal_wide_space :
    Variant "\n g1 \u3000x\u3000ß".toList "G1\t\r\n\tX\u3000ß \u00A0".toList ∧
      normalize "\n g1 \u3000x\u3000ß".toList = normalize "G1\t\r\n\tX\u3000ß \u00A0".toList ∧
      normalize "G1\t\r\n\tX\u3000ß \u00A0".toList = "G1 X\u3000SS".toList := by
  have houter : Text.AllBlank ['\n', ' '] ∧ Text.AllBlank [' ', '\u00A0'] := by
    simp only [Text.allBlank_cons, Text.allBlank_nil, and_true]
    decide
  have hinner : Text.AllBlank [' ', '\u3000'] ∧ Text.AllBlank ['\t', '\r', '\n', '\t'] := by
    simp only [Text.allBlank_cons, Text.allBlank_nil, and_true]
    decide
  have hend : SameRuns ['x', '\u3000', 'ß'] ['X', '\u3000', 'ß'] :=
    .char rfl (.char rfl (.char rfl .nil))
  have hruns : SameRuns "g1 \u3000x\u3000ß".toList "G1\t\r\n\tX\u3000ß".toList :=
    .char rfl (.char rfl (.run hinner.1 hinner.2 (by decide) (by decide) hend))
  have hvariant : Variant "\n g1 \u3000x\u3000ß".toList "G1\t\r\n\tX\u3000ß \u00A0".toList :=
    .mk houter.1 Text.allBlank_nil Text.allBlank_nil houter.2 hruns
  exact ⟨hvariant, (normalize_is_normal _).2.2.2.2.2 _ hvariant, by decide +kernel⟩

end Line

end NCBlock
