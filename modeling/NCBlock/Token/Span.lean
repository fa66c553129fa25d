import NCBlock.Text.Basic

/-!
Literals at the start of a text. Each function returns the literal and what follows it, and nothing
is lost between them; a literal is always as long as it can be.
-/

namespace NCBlock

def spanDigits (t : Text) : Text × Text := (t.takeWhile isDecimalDigit, t.dropWhile isDecimalDigit)

/-- Digits with an optional point and further digits, or a point and digits. -/
def spanUnsigned? (t : Text) : Option (Text × Text) :=
  match spanDigits t with
  | (whole, '.' :: rest) =>
    if whole = [] ∧ (spanDigits rest).1 = [] then none
    else some (whole ++ '.' :: (spanDigits rest).1, (spanDigits rest).2)
  | (whole, rest) => if whole = [] then none else some (whole, rest)

def spanNumber? : Text → Option (Text × Text)
  | '+' :: rest => (spanUnsigned? rest).map fun (number, rest) => ('+' :: number, rest)
  | '-' :: rest => (spanUnsigned? rest).map fun (number, rest) => ('-' :: number, rest)
  | t => spanUnsigned? t

/-- What follows an opening quote up to the quote that closes it: the first that is not doubled. -/
def spanQuoted? : Text → Option (Text × Text)
  | [] => none
  | '"' :: '"' :: rest => (spanQuoted? rest).map fun (inner, rest) => ('"' :: '"' :: inner, rest)
  | '"' :: rest => some (['"'], rest)
  | c :: rest => (spanQuoted? rest).map fun (inner, rest) => (c :: inner, rest)

/-- A quoted string, a number or nothing. -/
def spanLiteral : Text → Text × Text
  | '"' :: rest =>
    match spanQuoted? rest with
    | some (inner, rest) => ('"' :: inner, rest)
    | none => ([], '"' :: rest)
  | t => (spanNumber? t).getD ([], t)

/-- The whole text is one number. -/
def isNumber (t : Text) : Bool := spanNumber? t = some (t, [])

theorem spanDigits_append (t : Text) : (spanDigits t).1 ++ (spanDigits t).2 = t :=
  List.takeWhile_append_dropWhile

theorem spanUnsigned?_append {t number rest : Text} (h : spanUnsigned? t = some (number, rest)) :
    number ++ rest = t := by
  have whole := spanDigits_append t
  unfold spanUnsigned? at h
  split at h
  next digits fraction heq =>
    have inner := spanDigits_append fraction
    simp only [Option.ite_none_left_eq_some, Option.some.injEq, Prod.mk.injEq] at h
    rw [heq] at whole
    rw [← h.2.1, ← h.2.2, List.append_assoc, List.cons_append, inner, whole]
  next heq =>
    simp only [Option.ite_none_left_eq_some, Option.some.injEq, Prod.mk.injEq] at h
    rw [heq] at whole
    rw [← h.2.1, ← h.2.2, whole]

theorem spanNumber?_append {t number rest : Text} (h : spanNumber? t = some (number, rest)) :
    number ++ rest = t := by
  unfold spanNumber? at h
  split at h
  case h_3 => exact spanUnsigned?_append h
  all_goals
    simp only [Option.map_eq_some_iff, Prod.mk.injEq] at h
    obtain ⟨⟨unsigned, after⟩, found, rfl, rfl⟩ := h
    rw [List.cons_append, spanUnsigned?_append found]

theorem spanQuoted?_append {t inner rest : Text} (h : spanQuoted? t = some (inner, rest)) :
    inner ++ rest = t := by
  fun_induction spanQuoted? t generalizing inner rest with
  | case1 => simp at h
  | case2 t ih =>
      simp only [Option.map_eq_some_iff, Prod.mk.injEq] at h
      obtain ⟨⟨inner, after⟩, found, rfl, rfl⟩ := h
      simp [ih found]
  | case3 t _ =>
      simp only [Option.some.injEq, Prod.mk.injEq] at h
      simp [← h.1, ← h.2]
  | case4 c t _ _ ih =>
      simp only [Option.map_eq_some_iff, Prod.mk.injEq] at h
      obtain ⟨⟨inner, after⟩, found, rfl, rfl⟩ := h
      simp [ih found]

theorem spanLiteral_append (t : Text) : (spanLiteral t).1 ++ (spanLiteral t).2 = t := by
  unfold spanLiteral
  split
  · split
    next found => simp [spanQuoted?_append found]
    next => rfl
  · cases found : spanNumber? t with
    | none => rfl
    | some p => exact spanNumber?_append found

end NCBlock
