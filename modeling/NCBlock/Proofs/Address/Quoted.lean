import NCBlock.Address.Basic
import NCBlock.Proofs.Text.Blank
import NCBlock.Proofs.Token.Literal

/-!
The form of quoted strings: an opening quote, a text in which every quote is
doubled, and a closing quote, without tab or line break.
-/

namespace NCBlock

theorem quotesPaired_iff {t : Text} : quotesPaired t = true ↔ QuotesDoubled t := by
  constructor
  · intro h
    fun_induction quotesPaired t with
    | case1 => exact .nil
    | case2 t ih => exact .pair (ih h)
    | case3 c t _ ih =>
        simp only [Bool.and_eq_true, bne_iff_ne] at h
        exact .char h.1 (ih h.2)
  · intro h
    induction h with
    | nil => rfl
    | @char c t hc _ ih =>
        rw [quotesPaired]
        · simp [hc, ih]
        · exact fun _ h => absurd h hc
    | pair _ ih => exact ih

theorem one_le_length_utf8 {t : Text} (ht : t ≠ []) : 1 ≤ t.utf8.length := by
  refine List.length_pos_iff.2 fun h => ?_
  obtain ⟨c, t, rfl⟩ := List.exists_cons_of_ne_nil ht
  exact String.utf8EncodeChar_ne_nil (List.flatMap_eq_nil_iff.1 h c List.mem_cons_self)

theorem stringFault?_eq_none_iff {raw : Text} :
    stringFault? raw = none ↔ (∃ inner, raw = '"' :: (inner ++ ['"']) ∧ QuotesDoubled inner) ∧
      ∀ c ∈ raw, isLineControl c = false := by
  simp only [stringFault?]
  constructor
  · intro h
    split at h
    · cases h
    next hlong =>
      split at h
      · cases h
      next hcontrol =>
        split at h
        · cases h
        next hends =>
          split at h
          · cases h
          next hpaired =>
            obtain ⟨hfirst, hlast⟩ := Decidable.not_not.1 hends
            refine ⟨?_, by simpa using hcontrol⟩
            obtain ⟨tail, rfl⟩ := List.head?_eq_some_iff.1 hfirst
            rcases List.eq_nil_or_concat' tail with rfl | ⟨inner, c, rfl⟩
            · exact absurd (by decide) hlong
            · have hc : c = '"' := by
                rw [← List.cons_append, List.getLast?_concat] at hlast
                exact Option.some.inj hlast
              refine ⟨inner, by rw [hc], quotesPaired_iff.1 ?_⟩
              simpa using hpaired
  · rintro ⟨⟨inner, rfl, hinner⟩, hcontrol⟩
    have hlong : ¬(Text.utf8 ('"' :: (inner ++ ['"']))).length ≤ 1 := by
      have hrest := one_le_length_utf8 (t := inner ++ ['"']) (by simp)
      have hquote : Text.utf8 ['"'] = [34] := by decide
      rw [← List.singleton_append, Text.utf8_append, hquote, List.length_append,
        List.length_singleton]
      omega
    have hflat : List.any ('"' :: (inner ++ ['"'])) isLineControl = false :=
      List.any_eq_false.2 fun c hc => by simp [hcontrol c hc]
    rw [if_neg hlong, hflat, if_neg Bool.false_ne_true]
    have hlast : ('"' :: (inner ++ ['"'])).getLast? = some '"' := by
      rw [← List.cons_append, List.getLast?_concat]
    simp [hlast, quotesPaired_iff.2 hinner]

namespace QuotedText

theorem raw_eq (q : QuotedText) :
    ∃ inner, q.raw = '"' :: (inner ++ ['"']) ∧ QuotesDoubled inner :=
  (stringFault?_eq_none_iff.1 q.fault_eq_none).1

theorem not_isLineControl (q : QuotedText) : ∀ c ∈ q.raw, isLineControl c = false :=
  (stringFault?_eq_none_iff.1 q.fault_eq_none).2

theorem ofRaw_eq_ok_iff {raw : Text} {q : QuotedText} : ofRaw raw = .ok q ↔ q.raw = raw := by
  rw [ofRaw]
  split
  next h =>
    rw [Except.ok.injEq]
    constructor
    · rintro rfl
      rfl
    · rintro rfl
      rfl
  next fault h =>
    constructor
    · intro hok
      cases hok
    · rintro rfl
      rw [q.fault_eq_none] at h
      cases h

end QuotedText

end NCBlock
