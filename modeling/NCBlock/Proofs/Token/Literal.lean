import NCBlock.Proofs.Number.Numeral
import NCBlock.Proofs.Text.Class

/-!
The grammar of literals, and the spans that look for them. A span is sound
whatever follows it. It is complete in front of a blank or the end of the
text, because neither can prolong a literal.
-/

namespace NCBlock

/-- A quote stands only next to a second one. -/
inductive QuotesDoubled : Text → Prop
  | nil : QuotesDoubled []
  | char {c : Char} {t : Text} : c ≠ '"' → QuotesDoubled t → QuotesDoubled (c :: t)
  | pair {t : Text} : QuotesDoubled t → QuotesDoubled ('"' :: '"' :: t)

def AllDigits (t : Text) : Prop := ∀ c ∈ t, isDecimalDigit c = true

/-- Decimal digits, or decimal digits around a point. -/
inductive IsUnsigned : Text → Prop
  | whole {digits : Text} : digits ≠ [] → AllDigits digits → IsUnsigned digits
  | pointed {whole fraction : Text} : whole ++ fraction ≠ [] → AllDigits whole →
      AllDigits fraction → IsUnsigned (whole ++ '.' :: fraction)

def IsNumber (t : Text) : Prop := ∃ negative body, Text.Signed t negative body ∧ IsUnsigned body

/-- What may follow the letter of a token. -/
inductive IsLiteral : Text → Prop
  | absent : IsLiteral []
  | quoted {inner : Text} : QuotesDoubled inner → IsLiteral ('"' :: (inner ++ ['"']))
  | number {t : Text} : IsNumber t → IsLiteral t

/-- A blank or the end of the text comes next. -/
def AtGap (t : Text) : Prop := ∀ c ∈ t.head?, isBlank c = true

@[simp] theorem atGap_nil : AtGap [] := by simp [AtGap]

@[simp] theorem atGap_cons {c : Char} {t : Text} : AtGap (c :: t) ↔ isBlank c = true := by
  simp [AtGap]

/-! ### Digits -/

theorem allDigits_of_isNumeral {t : Text} (h : Text.isNumeral t = true) : AllDigits t :=
  fun c hc => isDecimalDigit_of_isDigit ((Text.isNumeral_iff.1 h).2 c hc)

theorem allDigits_spanDigits (t : Text) : AllDigits (spanDigits t).1 :=
  List.all_eq_true.1 List.all_takeWhile

theorem spanDigits_append_of {digits rest : Text} (hdigits : AllDigits digits)
    (hrest : ∀ c ∈ rest.head?, isDecimalDigit c = false) :
    spanDigits (digits ++ rest) = (digits, rest) := by
  have hstop : rest.takeWhile isDecimalDigit = [] ∧ rest.dropWhile isDecimalDigit = rest := by
    cases rest with
    | nil => exact ⟨rfl, rfl⟩
    | cons c rest => simp [hrest c rfl]
  rw [spanDigits, List.takeWhile_append_of_pos hdigits, List.dropWhile_append_of_pos hdigits,
    hstop.1, hstop.2, List.append_nil]

theorem AtGap.not_digit {t : Text} (h : AtGap t) : ∀ c ∈ t.head?, isDecimalDigit c = false :=
  fun c hc => not_isDecimalDigit_of_isBlank (h c hc)

/-! ### Numbers -/

theorem isUnsigned_of_span {t body rest : Text} (h : spanUnsigned? t = some (body, rest)) :
    IsUnsigned body := by
  have hdigits := allDigits_spanDigits t
  unfold spanUnsigned? at h
  split at h
  next digits fraction heq =>
    rw [heq] at hdigits
    simp only [Option.ite_none_left_eq_some, Option.some.injEq, Prod.mk.injEq] at h
    obtain ⟨hne, rfl, -⟩ := h
    exact .pointed (by simpa using hne) hdigits (allDigits_spanDigits fraction)
  next digits after _ heq =>
    rw [heq] at hdigits
    simp only [Option.ite_none_left_eq_some, Option.some.injEq, Prod.mk.injEq] at h
    obtain ⟨hne, rfl, -⟩ := h
    exact .whole hne hdigits

theorem spanUnsigned?_append_of {body rest : Text} (hbody : IsUnsigned body)
    (hrest : AtGap rest) : spanUnsigned? (body ++ rest) = some (body, rest) := by
  have hpoint : isDecimalDigit '.' = false := by decide
  cases hbody with
  | whole hne hdigits =>
      rw [spanUnsigned?, spanDigits_append_of hdigits hrest.not_digit]
      split
      next heq =>
        -- the text behind the digits starts with a blank and not with a point
        obtain ⟨-, rfl⟩ := Prod.mk.inj heq
        exact absurd (atGap_cons.1 hrest) (by decide)
      next heq =>
        obtain ⟨rfl, rfl⟩ := Prod.mk.inj heq
        rw [if_neg hne]
  | @pointed whole fraction hne hwhole hfraction =>
      have hspan : spanDigits (whole ++ '.' :: fraction ++ rest) =
          (whole, '.' :: (fraction ++ rest)) := by
        rw [List.append_assoc, List.cons_append]
        exact spanDigits_append_of hwhole (by simp [hpoint])
      simp only [spanUnsigned?, hspan, spanDigits_append_of hfraction hrest.not_digit]
      rw [if_neg (by simpa using hne)]

/-- A number starts with a sign, a digit or a point. -/
def startsNumber (c : Char) : Bool := isDecimalDigit c || c = '.' || c = '+' || c = '-'

theorem IsUnsigned.head_cases {body : Text} (h : IsUnsigned body) :
    ∃ c rest, body = c :: rest ∧ (isDecimalDigit c = true ∨ c = '.') := by
  cases h with
  | whole hne hdigits =>
      cases body with
      | nil => exact absurd rfl hne
      | cons c rest => exact ⟨c, rest, rfl, .inl (hdigits c List.mem_cons_self)⟩
  | @pointed whole fraction hne hwhole hfraction =>
      cases whole with
      | nil => exact ⟨'.', fraction, rfl, .inr rfl⟩
      | cons c rest => exact ⟨c, _, rfl, .inl (hwhole c List.mem_cons_self)⟩

theorem IsNumber.head_cases {t : Text} (h : IsNumber t) :
    ∃ c rest, t = c :: rest ∧ startsNumber c = true := by
  obtain ⟨negative, body, hsigned, hbody⟩ := h
  cases hsigned with
  | plus => exact ⟨'+', body, rfl, by decide⟩
  | minus => exact ⟨'-', body, rfl, by decide⟩
  | unsigned =>
      obtain ⟨c, rest, rfl, hc⟩ := hbody.head_cases
      refine ⟨c, rest, rfl, ?_⟩
      rcases hc with hc | rfl
      · simp [startsNumber, hc]
      · decide

theorem IsUnsigned.mem_cases {body : Text} (h : IsUnsigned body) {c : Char} (hc : c ∈ body) :
    c = '.' ∨ isDecimalDigit c = true := by
  cases h with
  | whole _ hall => exact .inr (hall c hc)
  | pointed _ hwhole hfraction =>
      rcases List.mem_append.1 hc with hc | hc
      · exact .inr (hwhole c hc)
      · exact (List.mem_cons.1 hc).imp_right (hfraction c)

/-- What a number is written with. -/
theorem IsNumber.mem_cases {t : Text} (h : IsNumber t) {c : Char} (hc : c ∈ t) :
    c = '+' ∨ c = '-' ∨ c = '.' ∨ isDecimalDigit c = true := by
  obtain ⟨negative, body, hsigned, hbody⟩ := h
  exact (hsigned.mem_cases hc).imp_right (Or.imp_right hbody.mem_cases)

theorem not_startsNumber_of_isBlank {c : Char} (h : isBlank c = true) :
    startsNumber c = false := by
  rw [← Bool.not_eq_true]
  intro hc
  simp only [startsNumber, not_isDecimalDigit_of_isBlank h, Bool.false_or, Bool.or_eq_true,
    decide_eq_true_eq] at hc
  rcases hc with (rfl | rfl) | rfl <;> exact absurd h (by decide)

theorem isNumber_of_span {t number rest : Text} (h : spanNumber? t = some (number, rest)) :
    IsNumber number := by
  unfold spanNumber? at h
  split at h
  case h_3 => exact ⟨false, number, .unsigned number, isUnsigned_of_span h⟩
  case h_1 =>
    simp only [Option.map_eq_some_iff, Prod.mk.injEq] at h
    obtain ⟨⟨body, after⟩, hspan, rfl, rfl⟩ := h
    exact ⟨false, body, .plus body, isUnsigned_of_span hspan⟩
  case h_2 =>
    simp only [Option.map_eq_some_iff, Prod.mk.injEq] at h
    obtain ⟨⟨body, after⟩, hspan, rfl, rfl⟩ := h
    exact ⟨true, body, .minus body, isUnsigned_of_span hspan⟩

theorem spanNumber?_append_of {number rest : Text} (hnumber : IsNumber number)
    (hrest : AtGap rest) : spanNumber? (number ++ rest) = some (number, rest) := by
  obtain ⟨negative, body, hsigned, hbody⟩ := hnumber
  have hspan := spanUnsigned?_append_of hbody hrest
  cases hsigned with
  | plus => simp [spanNumber?, hspan]
  | minus => simp [spanNumber?, hspan]
  | unsigned =>
      obtain ⟨c, tail, rfl, hc⟩ := hbody.head_cases
      unfold spanNumber?
      split
      next heq =>
        obtain ⟨rfl, -⟩ := List.cons.inj heq
        exact absurd hc (by decide)
      next heq =>
        obtain ⟨rfl, -⟩ := List.cons.inj heq
        exact absurd hc (by decide)
      next => exact hspan

theorem isNumber_iff {t : Text} : isNumber t = true ↔ IsNumber t := by
  rw [isNumber, decide_eq_true_eq]
  constructor
  · exact isNumber_of_span
  · intro h
    simpa using spanNumber?_append_of h atGap_nil

/-! ### Quoted strings -/

theorem quotesDoubled_of_span {t span rest : Text} (h : spanQuoted? t = some (span, rest)) :
    ∃ inner, span = inner ++ ['"'] ∧ QuotesDoubled inner := by
  fun_induction spanQuoted? t generalizing span rest with
  | case1 => simp at h
  | case2 t ih =>
      simp only [Option.map_eq_some_iff, Prod.mk.injEq] at h
      obtain ⟨⟨span, after⟩, hspan, rfl, rfl⟩ := h
      obtain ⟨inner, rfl, hinner⟩ := ih hspan
      exact ⟨'"' :: '"' :: inner, rfl, .pair hinner⟩
  | case3 t _ =>
      simp only [Option.some.injEq, Prod.mk.injEq] at h
      exact ⟨[], h.1.symm, .nil⟩
  | case4 c t _ hc ih =>
      simp only [Option.map_eq_some_iff, Prod.mk.injEq] at h
      obtain ⟨⟨span, after⟩, hspan, rfl, rfl⟩ := h
      obtain ⟨inner, rfl, hinner⟩ := ih hspan
      exact ⟨c :: inner, rfl, .char hc hinner⟩

theorem spanQuoted?_append_of {inner rest : Text} (hinner : QuotesDoubled inner)
    (hrest : AtGap rest) : spanQuoted? (inner ++ '"' :: rest) = some (inner ++ ['"'], rest) := by
  induction hinner with
  | nil =>
      -- the closing quote is single, because a gap or the end comes next
      cases rest with
      | nil => rfl
      | cons c rest =>
          have hc : c ≠ '"' := by
            rintro rfl
            exact absurd (atGap_cons.1 hrest) (by decide)
          rw [List.nil_append, spanQuoted?]
          · rfl
          · simpa using hc
  | @char c t hc ht ih =>
      rw [List.cons_append, spanQuoted?]
      · simp [ih]
      · exact fun _ h => absurd h hc
      · exact hc
  | pair ht ih => simp [spanQuoted?, ih]

/-! ### Literals -/

theorem isLiteral_spanLiteral (t : Text) : IsLiteral (spanLiteral t).1 := by
  unfold spanLiteral
  split
  · split
    next hspan =>
      obtain ⟨inner, rfl, hinner⟩ := quotesDoubled_of_span hspan
      exact .quoted hinner
    next => exact .absent
  · cases hspan : spanNumber? t with
    | none => exact .absent
    | some p => exact .number (isNumber_of_span hspan)

theorem spanNumber?_of_atGap {t : Text} (h : AtGap t) : spanNumber? t = none := by
  cases hspan : spanNumber? t with
  | none => rfl
  | some p =>
      obtain ⟨c, rest, heq, hc⟩ := (isNumber_of_span hspan).head_cases
      have hwhole := spanNumber?_append hspan
      rw [heq] at hwhole
      rw [← hwhole, List.cons_append, atGap_cons] at h
      rw [not_startsNumber_of_isBlank h] at hc
      cases hc

theorem spanLiteral_of_head_ne {t : Text} (h : ∀ rest, t ≠ '"' :: rest) :
    spanLiteral t = (spanNumber? t).getD ([], t) := by
  unfold spanLiteral
  split
  next rest => exact absurd rfl (h rest)
  next => rfl

theorem spanLiteral_append_of {literal rest : Text} (hliteral : IsLiteral literal)
    (hrest : AtGap rest) : spanLiteral (literal ++ rest) = (literal, rest) := by
  cases hliteral with
  | absent =>
      rw [List.nil_append, spanLiteral_of_head_ne, spanNumber?_of_atGap hrest, Option.getD_none]
      rintro tail rfl
      exact absurd (atGap_cons.1 hrest) (by decide)
  | quoted hinner => simp [spanLiteral, spanQuoted?_append_of hinner hrest]
  | number hnumber =>
      rw [spanLiteral_of_head_ne, spanNumber?_append_of hnumber hrest, Option.getD_some]
      intro tail heq
      obtain ⟨c, more, rfl, hc⟩ := hnumber.head_cases
      obtain ⟨rfl, -⟩ := List.cons.inj heq
      exact absurd hc (by decide)

end NCBlock
