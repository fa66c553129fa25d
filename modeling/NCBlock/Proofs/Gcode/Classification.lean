import NCBlock.Proofs.Gcode.Spelling

/-!
Which token is made a gcode, and of what kind. The kind of a literal follows
from its word and its form, and its value is the number that is written,
exactly for a whole number and to the nearest for one with a point. A number
that does not fit its kind is refused and never wrapped. The text of a gcode is
classified as the gcode it was written for.
-/

namespace NCBlock

/-- What a text stands for behind a reserved word, or behind any other. -/
inductive Address.Denotes : Bool → Text → Address → Prop
  | count {t : Text} : Text.isNumeral t = true → Text.numeralValue t ≤ 2 ^ 32 - 1 →
      Denotes true t (.uint32 (.ofNat (Text.numeralValue t)))
  | string {q : QuotedText} {inner : Text} : q.raw = '"' :: (inner ++ ['"']) →
      QuotesDoubled inner → (∀ c ∈ inner, isLineControl c = false) →
      Denotes false ('"' :: (inner ++ ['"'])) (.string q)
  | int {t : Text} {i : Int} : Text.IsInteger t i → -2 ^ 31 ≤ i → i ≤ 2 ^ 31 - 1 →
      Denotes false t (.int32 (.ofInt i))
  | float {t : Text} {d : Decimal} {v : Binary32} : d.IsPointed t → v.IsNearest d →
      v.isFinite = true → Denotes false t (.float32 v)

namespace Gcode

theorem Spelled.denotes {t : Text} {g : Gcode} (h : Spelled t g) :
    ∃ (w : Word) (l : Text), t = w.letter :: l ∧
      (l = [] ∧ g = .bare w ∨ ∃ a, Address.Denotes w.isReserved l a ∧ g = .addressed w a) := by
  cases h with
  | bare w => exact ⟨w, [], rfl, .inl ⟨rfl, rfl⟩⟩
  | @count w digits n hreserved hdigits hvalue =>
      have hbound : Text.numeralValue digits ≤ 2 ^ 32 - 1 := by
        have hlt := n.toNat_lt
        omega
      refine ⟨w, digits, rfl, .inr ⟨.uint32 n, ?_, rfl⟩⟩
      have hdenotes := Address.Denotes.count hdigits hbound
      rwa [hvalue, UInt32.ofNat_toNat, ← hreserved] at hdenotes
  | @string w q hfree =>
      obtain ⟨inner, hraw, hinner⟩ := q.raw_eq
      have hflat : ∀ c ∈ inner, isLineControl c = false := fun c hc =>
        q.not_isLineControl c (by simp [hraw, hc])
      refine ⟨w, q.raw, rfl, .inr ⟨.string q, ?_, rfl⟩⟩
      have hdenotes := Address.Denotes.string hraw hinner hflat
      rwa [← hraw, ← hfree] at hdenotes
  | @float w t v hfree hv =>
      obtain ⟨hfinite, d, hd, hnearest⟩ := hv
      refine ⟨w, t, rfl, .inr ⟨.float32 v, ?_, rfl⟩⟩
      rw [hfree]
      exact .float hd hnearest hfinite
  | @int w t i hfree hi =>
      have hlow : -2 ^ 31 ≤ i.toInt := i.le_toInt
      have hhigh : i.toInt ≤ 2 ^ 31 - 1 := Int.le_sub_one_of_lt i.toInt_lt
      refine ⟨w, t, rfl, .inr ⟨.int32 i, ?_, rfl⟩⟩
      have hdenotes := Address.Denotes.int hi hlow hhigh
      rwa [i.ofInt_toInt, ← hfree] at hdenotes

theorem spelled_of_denotes {w : Word} {l : Text} {a : Address}
    (h : Address.Denotes w.isReserved l a) : Spelled (w.letter :: l) (.addressed w a) := by
  generalize hreserved : w.isReserved = reserved at h
  cases h with
  | count hdigits hbound =>
      have hsize : UInt32.size = 2 ^ 32 := rfl
      exact .count hreserved hdigits (UInt32.toNat_ofNat_of_lt' (by omega)).symm
  | @string q inner hraw _ _ => exact hraw ▸ .string q hreserved
  | @int _ i hi hlow hhigh =>
      have hvalue : (Int32.ofInt i).toInt = i := Int32.toInt_ofInt_of_le hlow (by omega)
      exact .int hreserved (hvalue.symm ▸ hi)
  | @float _ d v hd hnearest hfinite =>
      exact .float hreserved ⟨hfinite, d, hd, hnearest⟩

/-- The text of a gcode may be another spelling than the one it was read from. -/
theorem Spelled.spelled_text {t : Text} {g : Gcode} (h : Spelled t g) : Spelled g.text g := by
  cases h with
  | bare w => exact .bare w
  | count hreserved _ _ =>
      exact .count hreserved (Text.isNumeral_ofNat _) (Text.numeralValue_ofNat _)
  | string q hfree => exact .string q hfree
  | float hfree hv => exact .float hfree (Address.isLiteral_floatText hv.1)
  | int hfree _ => exact .int hfree (Text.isInteger_ofInt _)

/-- A token is made a gcode exactly if it is a word alone or a word with a text
that stands for an address behind it. -/
theorem ofToken_classifies (t : Text) :
    (∀ g, ofToken t = .ok g ↔ ∃ (w : Word) (l : Text), t = w.letter :: l ∧
      (l = [] ∧ g = .bare w ∨ ∃ a, Address.Denotes w.isReserved l a ∧ g = .addressed w a)) ∧
    ∀ g, ofToken t = .ok g → ofToken g.text = .ok g := by
  refine ⟨fun g => ⟨fun h => (ofToken_eq_ok_iff.1 h).denotes, ?_⟩, fun g h => ?_⟩
  · rintro ⟨w, l, rfl, ⟨rfl, rfl⟩ | ⟨a, ha, rfl⟩⟩
    · exact ofToken_eq_ok_iff.2 (.bare w)
    · exact ofToken_eq_ok_iff.2 (spelled_of_denotes ha)
  · exact ofToken_eq_ok_iff.2 (ofToken_eq_ok_iff.1 h).spelled_text

/-- Neither the missing digit nor the zeros at the ends are written again. -/
theorem ofToken_classifies_partial_fraction : ∃ g, ofToken "X-.5000".toList = .ok g ∧
    g = .addressed ⟨'X', by decide⟩ (.float32 ⟨0xBF000000⟩) ∧ ofToken g.text = .ok g ∧
    g.text = "X-0.5".toList := by
  have h : ofToken "X-.5000".toList =
      .ok (.addressed ⟨'X', by decide⟩ (.float32 ⟨0xBF000000⟩)) := by decide +kernel
  exact ⟨_, h, rfl, (ofToken_classifies _).2 _ h, by decide +kernel⟩

end Gcode

end NCBlock
