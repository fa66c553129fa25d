import NCBlock.Gcode.Dialect
import NCBlock.Proofs.Address.Quoted
import NCBlock.Proofs.Token.Row

/-!
Spellings of gcodes. A gcode has many spellings (signs, leading zeros, digits
behind a point), and the stock dialect makes a gcode of exactly these. Every
spelling is a token, so a region of spellings cannot be cut in another way.
-/

namespace NCBlock

/-! ### Words -/

theorem Word.toNat_letter_lt (w : Word) : w.letter.toNat < 0x61 := by
  have hall : alphabet.all (·.toNat < 0x61) = true := by decide
  exact of_decide_eq_true (List.all_eq_true.1 hall w.letter w.letter_mem)

theorem Word.isTokenLetter_letter (w : Word) : isTokenLetter w.letter = true := by
  have hall : alphabet.all isTokenLetter = true := by decide
  exact List.all_eq_true.1 hall w.letter w.letter_mem

theorem Word.isReserved_iff {w : Word} :
    w.isReserved = true ↔ w.letter = 'N' ∨ w.letter = '*' := by
  obtain ⟨c, hc⟩ := w
  simp [isReserved, lineNumber, checksum]

theorem Word.not_isReserved_iff {w : Word} :
    w.isReserved = false ↔ ¬(w.letter = 'N' ∨ w.letter = '*') := by
  rw [← isReserved_iff, Bool.not_eq_true]

theorem ofUInt8_leadByte {c : Char} (hc : c.toNat < 0x80) :
    Char.ofUInt8 (Word.leadByte c) = c := by
  have hval : c.val.toNat < 0x80 := hc
  have hsize : c.utf8Size = 1 := by
    have hle : c.val ≤ 0x7F := by
      rw [UInt32.le_iff_toNat_le]
      exact Nat.le_of_lt_succ hval
    simp [Char.utf8Size, hle]
  rw [Word.leadByte, String.utf8EncodeChar_eq_singleton hsize, List.headD_cons]
  apply Char.ext
  apply UInt32.toNat_inj.1
  show c.val.toUInt8.toUInt32.toNat = c.val.toNat
  rw [UInt8.toNat_toUInt32, UInt32.toNat_toUInt8]
  omega

theorem Word.ofByte_leadByte {c : Char} (hc : c.toNat < 0x80) {w : Word} :
    ofByte (leadByte c) = .ok w ↔ w.letter = c := by
  simp only [ofByte, ofUInt8_leadByte hc]
  split
  next h =>
    rw [Except.ok.injEq]
    constructor
    · rintro rfl
      rfl
    · rintro rfl
      rfl
  next h =>
    constructor
    · intro hok
      cases hok
    · rintro rfl
      exact absurd w.letter_mem h

/-! ### Readings -/

theorem Reading.ofToken_eq_ok_iff {t : Text} {r : Reading} :
    Reading.ofToken t = .ok r ↔ ∃ c rest, t = c :: rest ∧ c.toNat < 0x80 ∧
      r.word = Word.leadByte c ∧ Literal.ofText? c rest = some r.literal := by
  cases t with
  | nil => simp [Reading.ofToken]
  | cons c rest =>
      simp only [Reading.ofToken]
      constructor
      · intro h
        split at h
        · cases h
        next hc =>
          split at h
          next literal hliteral =>
            cases h
            exact ⟨c, rest, rfl, by omega, rfl, hliteral⟩
          next =>
            split at h <;> cases h
      · rintro ⟨d, tail, heq, hc, hword, hliteral⟩
        obtain ⟨rfl, rfl⟩ := List.cons.inj heq
        rw [if_neg (by omega), hliteral, ← hword]

namespace Gcode

/-- The texts that stand for a gcode. -/
inductive Spelled : Text → Gcode → Prop
  | bare (w : Word) : Spelled w.text (.bare w)
  | count {w : Word} {digits : Text} {n : UInt32} : w.isReserved = true →
      Text.isNumeral digits = true → Text.numeralValue digits = n.toNat →
      Spelled (w.text ++ digits) (.addressed w (.uint32 n))
  | string {w : Word} (q : QuotedText) : w.isReserved = false →
      Spelled (w.text ++ q.raw) (.addressed w (.string q))
  | float {w : Word} {t : Text} {v : Binary32} : w.isReserved = false →
      Binary32.IsLiteral t v → Spelled (w.text ++ t) (.addressed w (.float32 v))
  | int {w : Word} {t : Text} {i : Int32} : w.isReserved = false →
      Text.IsInteger t i.toInt → Spelled (w.text ++ t) (.addressed w (.int32 i))

end Gcode

/-! ### Literals behind a word -/

theorem isNumber_of_isInteger {t : Text} {i : Int} (h : Text.IsInteger t i) : IsNumber t := by
  obtain ⟨negative, digits, hsigned, hdigits, -⟩ := h
  exact ⟨negative, digits, hsigned,
    .whole (Text.isNumeral_iff.1 hdigits).1 (allDigits_of_isNumeral hdigits)⟩

theorem isNumber_of_isPointed {t : Text} {d : Decimal} (h : d.IsPointed t) : IsNumber t := by
  obtain ⟨whole, fraction, hsigned, hnumeral, -⟩ := h
  have hall := allDigits_of_isNumeral hnumeral
  exact ⟨d.negative, _, hsigned, .pointed (Text.isNumeral_iff.1 hnumeral).1
    (fun c hc => hall c (List.mem_append_left _ hc))
    (fun c hc => hall c (List.mem_append_right _ hc))⟩

theorem not_mem_of_isInteger {t : Text} {i : Int} (h : Text.IsInteger t i) : '.' ∉ t := by
  obtain ⟨negative, digits, hsigned, hdigits, -⟩ := h
  intro hmem
  rcases hsigned.mem_cases hmem with heq | heq | hmem
  · cases heq
  · cases heq
  · exact absurd ((Text.isNumeral_iff.1 hdigits).2 _ hmem) (by decide)

theorem IsNumber.not_mem_quote {t : Text} (h : IsNumber t) : '"' ∉ t := by
  intro hmem
  rcases h.mem_cases hmem with heq | heq | heq | hdigit
  · cases heq
  · cases heq
  · cases heq
  · exact absurd hdigit (by decide)

theorem IsNumber.ne_nil {t : Text} (h : IsNumber t) : t ≠ [] := by
  obtain ⟨c, rest, rfl, -⟩ := h.head_cases
  exact List.cons_ne_nil c rest

namespace Literal

/-- The four forms of a literal. -/
theorem ofText?_eq_some_iff {c : Char} {t : Text} {literal : Literal} :
    ofText? c t = some literal ↔ t = [] ∧ literal = .absent ∨
      (c = 'N' ∨ c = '*') ∧ (∃ n, Text.toUInt32? t = some n ∧ literal = .uint32 n) ∨
      ¬(c = 'N' ∨ c = '*') ∧ '"' ∈ t ∧ literal = .string t ∨
      ¬(c = 'N' ∨ c = '*') ∧ IsNumber t ∧ ofNumber? t = some literal := by
  have hempty : Text.toUInt32? [] = none := rfl
  by_cases hnil : t = []
  · have hnumber : ¬IsNumber t := fun h => h.ne_nil hnil
    simp [ofText?, hnil, hempty, hnil ▸ hnumber, eq_comm]
  · by_cases hc : c = 'N' ∨ c = '*'
    · simp only [ofText?, hnil, hc, Option.map_eq_some_iff, if_true, if_false,
        eq_comm (a := literal)]
      simp
    · by_cases hquote : '"' ∈ t
      · have hnumber : ¬IsNumber t := fun h => h.not_mem_quote hquote
        simp [ofText?, hnil, hc, hquote, hnumber, eq_comm]
      · simp [ofText?, hnil, hc, hquote, isNumber_iff]

/-- What a number behind a word is read as. -/
theorem ofNumber?_eq_some_iff {t : Text} {literal : Literal} :
    ofNumber? t = some literal ↔ (∃ v, Binary32.IsLiteral t v ∧ literal = .float32 v) ∨
      '.' ∉ t ∧ ∃ i : Int32, Text.IsInteger t i.toInt ∧ literal = .int32 i := by
  rw [ofNumber?]
  split
  next hpoint =>
    simp only [Option.map_eq_some_iff, hpoint, not_true_eq_false, false_and, or_false]
    constructor
    · rintro ⟨v, hread, rfl⟩
      exact ⟨v, Binary32.ofText?_eq_some_iff.1 ⟨hread, hpoint⟩, rfl⟩
    · rintro ⟨v, hv, rfl⟩
      exact ⟨v, (Binary32.ofText?_eq_some_iff.2 hv).1, rfl⟩
  next hpoint =>
    simp only [Option.map_eq_some_iff, Text.toInt32?_eq_some_iff, hpoint, not_false_eq_true,
      true_and]
    constructor
    · rintro ⟨i, hi, rfl⟩
      exact .inr ⟨i, hi, rfl⟩
    · rintro (⟨v, hv, -⟩ | ⟨i, hi, rfl⟩)
      · exact absurd (Binary32.ofText?_eq_some_iff.2 hv).2 hpoint
      · exact ⟨i, hi, rfl⟩

end Literal

namespace Gcode

/-! ### Spellings -/

theorem Spelled.eq_cons {t : Text} {g : Gcode} (h : Spelled t g) :
    ∃ rest, t = g.word.letter :: rest := by
  cases h <;> exact ⟨_, rfl⟩

theorem Spelled.isToken {t : Text} {g : Gcode} (h : Spelled t g) : IsToken t := by
  cases h with
  | bare w => exact .intro w.isTokenLetter_letter .absent
  | @count w digits n _ hdigits _ =>
      exact .intro w.isTokenLetter_letter (.number ⟨false, digits, .unsigned digits,
        .whole (Text.isNumeral_iff.1 hdigits).1 (allDigits_of_isNumeral hdigits)⟩)
  | @string w q _ =>
      obtain ⟨inner, heq, hinner⟩ := q.raw_eq
      rw [heq]
      exact .intro w.isTokenLetter_letter (.quoted hinner)
  | @float w t v _ hv =>
      obtain ⟨-, d, hd, -⟩ := hv
      exact .intro w.isTokenLetter_letter (.number (isNumber_of_isPointed hd))
  | @int w t i _ hi => exact .intro w.isTokenLetter_letter (.number (isNumber_of_isInteger hi))

/-- The literal that a gcode is made of. -/
def literal : Gcode → Literal
  | .bare _ => .absent
  | .addressed _ (.uint32 n) => .uint32 n
  | .addressed _ (.int32 i) => .int32 i
  | .addressed _ (.float32 v) => .float32 v
  | .addressed _ (.string q) => .string q.raw

theorem ofReading_eq_ok_iff {r : Reading} {g : Gcode} :
    ofReading r = .ok g ↔ Word.ofByte r.word = .ok g.word ∧ r.literal = g.literal := by
  obtain ⟨byte, read⟩ := r
  constructor
  · intro h
    rw [ofReading] at h
    split at h
    · cases h
    next w hw =>
      rw [hw]
      cases read with
      | string raw =>
          dsimp only at h
          cases hq : QuotedText.ofRaw raw with
          | error e =>
              rw [hq] at h
              cases h
          | ok q =>
              rw [hq] at h
              cases h
              exact ⟨rfl, congrArg Literal.string (QuotedText.ofRaw_eq_ok_iff.1 hq).symm⟩
      | _ =>
          cases h
          exact ⟨rfl, rfl⟩
  · rintro ⟨hw, hliteral⟩
    dsimp only at hw hliteral
    subst hliteral
    rw [ofReading, hw]
    cases g with
    | bare w => rfl
    | addressed w a =>
        cases a with
        | string q =>
            -- the quoting is checked again, and a quoted text has passed this check
            have hq : QuotedText.ofRaw q.raw = .ok q := QuotedText.ofRaw_eq_ok_iff.2 rfl
            simp only [literal, hq]
            rfl
        | _ => rfl

theorem Spelled.ofText?_eq_some {t : Text} {g : Gcode} (h : Spelled t g) :
    ∃ rest, t = g.word.letter :: rest ∧
      Literal.ofText? g.word.letter rest = some g.literal := by
  cases h with
  | bare w => exact ⟨[], rfl, Literal.ofText?_eq_some_iff.2 (.inl ⟨rfl, rfl⟩)⟩
  | @count w digits n hreserved hdigits hvalue =>
      refine ⟨digits, rfl, Literal.ofText?_eq_some_iff.2 (.inr (.inl ⟨?_, n, ?_, rfl⟩))⟩
      · exact Word.isReserved_iff.1 hreserved
      · exact Text.toUInt32?_eq_some_iff.2 ⟨hdigits, hvalue⟩
  | @string w q hfree =>
      refine ⟨q.raw, rfl, Literal.ofText?_eq_some_iff.2 (.inr (.inr (.inl ⟨?_, ?_, rfl⟩)))⟩
      · exact Word.not_isReserved_iff.1 hfree
      · obtain ⟨inner, heq, -⟩ := q.raw_eq
        rw [heq]
        exact List.mem_cons_self
  | @float w t v hfree hv =>
      obtain ⟨-, d, hd, -⟩ := id hv
      refine ⟨t, rfl, Literal.ofText?_eq_some_iff.2 (.inr (.inr (.inr ⟨?_, ?_, ?_⟩)))⟩
      · exact Word.not_isReserved_iff.1 hfree
      · exact isNumber_of_isPointed hd
      · exact Literal.ofNumber?_eq_some_iff.2 (.inl ⟨v, hv, rfl⟩)
  | @int w t i hfree hi =>
      refine ⟨t, rfl, Literal.ofText?_eq_some_iff.2 (.inr (.inr (.inr ⟨?_, ?_, ?_⟩)))⟩
      · exact Word.not_isReserved_iff.1 hfree
      · exact isNumber_of_isInteger hi
      · exact Literal.ofNumber?_eq_some_iff.2 (.inr ⟨not_mem_of_isInteger hi, i, hi, rfl⟩)

theorem eq_of_literal_eq_uint32 {g : Gcode} {n : UInt32} (h : g.literal = .uint32 n) :
    g = .addressed g.word (.uint32 n) := by
  cases g with
  | bare w => cases h
  | addressed w a =>
      cases a with
      | uint32 m =>
          cases h
          rfl
      | _ => cases h

theorem spelled_of_ofText? {rest : Text} {g : Gcode}
    (h : Literal.ofText? g.word.letter rest = some g.literal) :
    Spelled (g.word.letter :: rest) g := by
  rcases Literal.ofText?_eq_some_iff.1 h with
    ⟨rfl, heq⟩ | ⟨hreserved, n, hn, heq⟩ | ⟨hfree, -, heq⟩ | ⟨hfree, -, hnumber⟩
  · cases g with
    | bare w => exact .bare w
    | addressed w a => cases a <;> cases heq
  · obtain ⟨hdigits, hvalue⟩ := Text.toUInt32?_eq_some_iff.1 hn
    rw [eq_of_literal_eq_uint32 heq]
    exact .count (Word.isReserved_iff.2 hreserved) hdigits hvalue
  · cases g with
    | bare w => cases heq
    | addressed w a =>
        cases a with
        | string q =>
            cases heq
            exact .string q (Word.not_isReserved_iff.2 hfree)
        | _ => cases heq
  · rcases Literal.ofNumber?_eq_some_iff.1 hnumber with ⟨v, hv, heq⟩ | ⟨-, i, hi, heq⟩
    · cases g with
      | bare w => cases heq
      | addressed w a =>
          cases a with
          | float32 u =>
              cases heq
              exact .float (Word.not_isReserved_iff.2 hfree) hv
          | _ => cases heq
    · cases g with
      | bare w => cases heq
      | addressed w a =>
          cases a with
          | int32 j =>
              cases heq
              exact .int (Word.not_isReserved_iff.2 hfree) hi
          | _ => cases heq

/-- The stock dialect makes a gcode of its spellings, and of no other token. -/
theorem ofToken_eq_ok_iff {t : Text} {g : Gcode} : ofToken t = .ok g ↔ Spelled t g := by
  rw [ofToken]
  constructor
  · intro h
    split at h
    · cases h
    next r hr =>
      obtain ⟨c, rest, rfl, hc, hword, hliteral⟩ := Reading.ofToken_eq_ok_iff.1 hr
      obtain ⟨hbyte, heq⟩ := ofReading_eq_ok_iff.1 h
      rw [hword, Word.ofByte_leadByte hc] at hbyte
      rw [← hbyte] at hliteral ⊢
      exact spelled_of_ofText? (heq ▸ hliteral)
  · intro h
    obtain ⟨rest, rfl, hliteral⟩ := h.ofText?_eq_some
    have hlow : g.word.letter.toNat < 0x80 := by
      have := g.word.toNat_letter_lt
      omega
    have hr : Reading.ofToken (g.word.letter :: rest) =
        .ok ⟨Word.leadByte g.word.letter, g.literal⟩ :=
      Reading.ofToken_eq_ok_iff.2 ⟨_, rest, rfl, hlow, rfl, hliteral⟩
    rw [hr]
    exact ofReading_eq_ok_iff.2 ⟨(Word.ofByte_leadByte hlow).2 rfl, rfl⟩

end Gcode

theorem Dialect.ofToken_stock (t : Text) : stock.ofToken t () = (Gcode.ofToken t, ()) := by
  rw [ofToken, Gcode.ofToken]
  split <;> rfl

/-- The stock dialect makes a row of gcodes exactly of a row of spellings. -/
theorem Dialect.ofTokens_stock_eq_ok_iff {ts : List Text} {gs : List Gcode} :
    (stock.ofTokens ts ()).1 = .ok gs ↔ List.Forall₂ Gcode.Spelled ts gs := by
  induction ts generalizing gs with
  | nil => simp [ofTokens, eq_comm]
  | cons t ts ih =>
      rw [ofTokens, ofToken_stock, List.forall₂_cons_left_iff]
      rcases hmade : stock.ofTokens ts () with ⟨made, ⟨⟩⟩
      rw [hmade] at ih
      constructor
      · intro h
        cases ht : Gcode.ofToken t with
        | error e =>
            rw [ht] at h
            cases h
        | ok g =>
            rw [ht] at h
            dsimp only at h
            cases made with
            | error e =>
                rw [hmade] at h
                cases h
            | ok rest =>
                rw [hmade] at h
                cases h
                exact ⟨g, rest, Gcode.ofToken_eq_ok_iff.1 ht, ih.1 rfl, rfl⟩
      · rintro ⟨g, rest, hg, hrest, rfl⟩
        rw [Gcode.ofToken_eq_ok_iff.2 hg]
        dsimp only
        obtain rfl : made = .ok rest := ih.2 hrest
        rw [hmade]

end NCBlock
