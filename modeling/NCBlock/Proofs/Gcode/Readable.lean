import NCBlock.Proofs.Gcode.Spelling
import NCBlock.Proofs.Line.NormalForm

/-!
Readable gcodes: those whose own text is one of their spellings and outlives
the normal form of a line. Whatever is read from a normal line is readable, so
readable gcodes are the ones that can be written and read again.
-/

namespace NCBlock

/-- What a gcode has to be for its text to be read as the same gcode. -/
def Gcode.Readable : Gcode → Prop
  | .bare _ => True
  | .addressed w (.uint32 _) => w.isReserved = true
  | .addressed w (.int32 _) => w.isReserved = false
  | .addressed w (.float32 v) => w.isReserved = false ∧ v.isFinite = true
  | .addressed w (.string q) =>
    w.isReserved = false ∧ ';' ∉ q.raw ∧ Text.upperCase q.raw = q.raw ∧ q.raw.Loose

/-! ### Plain characters -/

/-- The characters that words and numbers are written with, and some more. -/
def IsPlain (c : Char) : Prop := 0x20 < c.toNat ∧ c.toNat < 0x61 ∧ c ≠ ';'

theorem IsPlain.not_isBlank {c : Char} (h : IsPlain c) : isBlank c = false := by
  obtain ⟨hlow, hhigh, -⟩ := h
  exact not_isBlank_of_lt hlow (by omega)

theorem isPlain_of_isDigit {c : Char} (h : c.isDigit = true) : IsPlain c := by
  simp only [Char.isDigit, ge_iff_le, Bool.and_eq_true, decide_eq_true_eq] at h
  have hlow : 48 ≤ c.toNat := h.1
  have hhigh : c.toNat ≤ 57 := h.2
  refine ⟨by omega, by omega, ?_⟩
  rintro rfl
  have hsemicolon : ';'.toNat = 59 := rfl
  omega

theorem isPlain_of_isTokenLetter {c : Char} (h : isTokenLetter c = true) : IsPlain c := by
  rcases isTokenLetter_iff.1 h with hc | rfl
  · refine ⟨by omega, by omega, ?_⟩
    rintro rfl
    have hsemicolon : ';'.toNat = 59 := rfl
    omega
  · exact ⟨by decide, by decide, by decide⟩

theorem isPlain_of_isNumeral {t : Text} (h : Text.isNumeral t = true) : ∀ c ∈ t, IsPlain c :=
  fun c hc => isPlain_of_isDigit ((Text.isNumeral_iff.1 h).2 c hc)

theorem Text.Signed.isPlain {t body : Text} {negative : Bool} (h : Text.Signed t negative body)
    (hbody : ∀ c ∈ body, IsPlain c) : ∀ c ∈ t, IsPlain c := by
  intro c hc
  rcases h.mem_cases hc with rfl | rfl | hc
  · exact ⟨by decide, by decide, by decide⟩
  · exact ⟨by decide, by decide, by decide⟩
  · exact hbody c hc

theorem isPlain_of_isInteger {t : Text} {i : Int} (h : Text.IsInteger t i) :
    ∀ c ∈ t, IsPlain c := by
  obtain ⟨negative, digits, hsigned, hdigits, -⟩ := h
  exact hsigned.isPlain (isPlain_of_isNumeral hdigits)

theorem isPlain_of_isPointed {t : Text} {d : Decimal} (h : d.IsPointed t) :
    ∀ c ∈ t, IsPlain c := by
  obtain ⟨whole, fraction, hsigned, hnumeral, -⟩ := h
  have hdigits := isPlain_of_isNumeral hnumeral
  refine hsigned.isPlain fun c hc => ?_
  rcases List.mem_append.1 hc with hc | hc
  · exact hdigits c (List.mem_append_left _ hc)
  · rcases List.mem_cons.1 hc with rfl | hc
    · exact ⟨by decide, by decide, by decide⟩
    · exact hdigits c (List.mem_append_right _ hc)

namespace Gcode

/-! ### Texts of readable gcodes -/

theorem Readable.spelled {g : Gcode} (h : g.Readable) : Spelled g.text g := by
  cases g with
  | bare w => exact .bare w
  | addressed w a =>
      cases a with
      | uint32 n => exact .count h (Text.isNumeral_ofNat _) (Text.numeralValue_ofNat _)
      | int32 i => exact .int h (Text.isInteger_ofInt _)
      | float32 v => exact .float h.1 (Address.isLiteral_floatText h.2)
      | string q => exact .string q h.1

theorem Readable.isPlain_or {g : Gcode} (h : g.Readable) :
    (∀ c ∈ g.text, IsPlain c) ∨ ∃ w q, g = .addressed w (.string q) := by
  have hword (w : Word) {t : Text} (ht : ∀ c ∈ t, IsPlain c) : ∀ c ∈ w.text ++ t, IsPlain c := by
    intro c hc
    rcases List.mem_cons.1 hc with rfl | hc
    · exact isPlain_of_isTokenLetter w.isTokenLetter_letter
    · exact ht c hc
  cases g with
  | bare w =>
      refine .inl fun c hc => ?_
      rw [List.mem_singleton.1 hc]
      exact isPlain_of_isTokenLetter w.isTokenLetter_letter
  | addressed w a =>
      cases a with
      | uint32 n => exact .inl (hword w (isPlain_of_isNumeral (Text.isNumeral_ofNat _)))
      | int32 i => exact .inl (hword w (isPlain_of_isInteger (Text.isInteger_ofInt _)))
      | float32 v =>
          obtain ⟨-, d, hd, -⟩ := Address.isLiteral_floatText h.2
          exact .inl (hword w (isPlain_of_isPointed hd))
      | string q => exact .inr ⟨w, q, rfl⟩

theorem Readable.isNormal_text {g : Gcode} (h : g.Readable) : Line.IsNormal g.text := by
  have htrimmed := h.spelled.isToken.trimmed
  have hcontrol {c : Char} (hc : isBlank c = false) : isLineControl c = false := by
    rw [← Bool.not_eq_true]
    intro hcontrol
    rw [isBlank_of_isLineControl hcontrol] at hc
    cases hc
  rcases h.isPlain_or with hplain | ⟨w, q, rfl⟩
  · have hsolid := fun c hc => (hplain c hc).not_isBlank
    exact ⟨htrimmed, fun c hc => capitals_of_lt (hplain c hc).2.1, Text.loose_of_forall hsolid,
      fun c hc => hcontrol (hsolid c hc)⟩
  · obtain ⟨-, -, hcapital, hloose⟩ := h
    have hletter := not_isBlank_of_isTokenLetter w.isTokenLetter_letter
    refine ⟨htrimmed, fun c hc => ?_, ?_, fun c hc => ?_⟩
    · rcases List.mem_cons.1 hc with rfl | hc
      · exact capitals_of_lt w.toNat_letter_lt
      · exact Text.upperCase_eq_self_iff.1 hcapital c hc
    · exact List.isChain_cons.2 ⟨fun _ _ => .inl hletter, hloose⟩
    · rcases List.mem_cons.1 hc with rfl | hc
      · exact hcontrol hletter
      · exact q.not_isLineControl c hc

theorem Readable.not_mem_text {g : Gcode} (h : g.Readable) : ';' ∉ g.text := by
  rcases h.isPlain_or with hplain | ⟨w, q, rfl⟩
  · exact fun hmem => (hplain ';' hmem).2.2 rfl
  · intro hmem
    rcases List.mem_cons.1 hmem with heq | hmem
    · exact (isPlain_of_isTokenLetter w.isTokenLetter_letter).2.2 heq.symm
    · exact h.2.1 hmem

/-- What a spelling in normal form stands for is readable. -/
theorem Spelled.readable {t : Text} {g : Gcode} (h : Spelled t g)
    (hcapital : ∀ c ∈ t, capitals c = [c]) (hloose : t.Loose) (hcomment : ';' ∉ t) :
    g.Readable := by
  cases h with
  | bare w => trivial
  | count hreserved _ _ => exact hreserved
  | float hfree hv => exact ⟨hfree, hv.1⟩
  | int hfree _ => exact hfree
  | @string w q hfree =>
      refine ⟨hfree, fun hmem => hcomment (List.mem_append_right _ hmem), ?_, hloose.right⟩
      exact Text.upperCase_eq_self_iff.2 fun c hc => hcapital c (List.mem_append_right _ hc)

end Gcode

end NCBlock
