import NCBlock.Proofs.Address.Quoted

/-!
Quoting and its inverse. Doubling the quotes of a text is undone by folding
every pair of quotes again, and a text whose quotes are paired already is the
doubling of its folding. So the quoted texts are the images of the texts
without tab and line break, each of exactly one.
-/

namespace NCBlock

theorem not_isLineControl_iff {t : Text} :
    (∀ c ∈ t, isLineControl c = false) ↔ '\t' ∉ t ∧ '\n' ∉ t ∧ '\r' ∉ t := by
  constructor
  · intro h
    refine ⟨fun hmem => ?_, fun hmem => ?_, fun hmem => ?_⟩
    all_goals
      have hcontrol := h _ hmem
      simp [isLineControl] at hcontrol
  · rintro ⟨htab, hfeed, hreturn⟩ c hc
    have hne {d : Char} (hd : d ∉ t) : c ≠ d := by
      rintro rfl
      exact hd hc
    simp [isLineControl, hne htab, hne hfeed, hne hreturn]

namespace QuotedText

/-! ### Doubling and folding -/

@[simp] theorem doubleQuotes_nil : doubleQuotes [] = [] := rfl

@[simp] theorem doubleQuotes_quote (t : Text) :
    doubleQuotes ('"' :: t) = '"' :: '"' :: doubleQuotes t := rfl

theorem doubleQuotes_cons {c : Char} (hc : c ≠ '"') (t : Text) :
    doubleQuotes (c :: t) = c :: doubleQuotes t := by
  simp [doubleQuotes, hc]

@[simp] theorem undoubleQuotes_nil : undoubleQuotes [] = [] := rfl

@[simp] theorem undoubleQuotes_pair (t : Text) :
    undoubleQuotes ('"' :: '"' :: t) = '"' :: undoubleQuotes t := by
  rw [undoubleQuotes]

theorem undoubleQuotes_cons {c : Char} (hc : c ≠ '"') (t : Text) :
    undoubleQuotes (c :: t) = c :: undoubleQuotes t := by
  rw [undoubleQuotes]
  exact fun _ h => absurd h hc

@[simp] theorem undoubleQuotes_doubleQuotes (t : Text) :
    undoubleQuotes (doubleQuotes t) = t := by
  induction t with
  | nil => simp
  | cons c t ih =>
      by_cases hc : c = '"'
      · subst hc
        simp [ih]
      · simp [doubleQuotes_cons hc, undoubleQuotes_cons hc, ih]

theorem quotesDoubled_doubleQuotes (t : Text) : QuotesDoubled (doubleQuotes t) := by
  induction t with
  | nil => exact .nil
  | cons c t ih =>
      by_cases hc : c = '"'
      · subst hc
        exact .pair ih
      · rw [doubleQuotes_cons hc]
        exact .char hc ih

theorem doubleQuotes_undoubleQuotes {t : Text} (h : QuotesDoubled t) :
    doubleQuotes (undoubleQuotes t) = t := by
  induction h with
  | nil => simp
  | char hc _ ih => simp [undoubleQuotes_cons hc, doubleQuotes_cons hc, ih]
  | pair _ ih => simp [ih]

theorem mem_doubleQuotes {t : Text} {c : Char} : c ∈ doubleQuotes t ↔ c ∈ t := by
  induction t with
  | nil => simp
  | cons d t ih =>
      by_cases hd : d = '"'
      · subst hd
        simp [ih]
      · simp [doubleQuotes_cons hd, ih]

/-! ### Quoted texts -/

/-- A text is accepted when there is a quote at either end, every quote in
between is doubled, and no tab or line break occurs. -/
theorem exists_ofRaw_eq_ok_iff {raw : Text} :
    (∃ q, ofRaw raw = .ok q) ↔ ∃ inner, raw = '"' :: (inner ++ ['"']) ∧
      QuotesDoubled inner ∧ '\t' ∉ inner ∧ '\n' ∉ inner ∧ '\r' ∉ inner := by
  have haccepted : (∃ q, ofRaw raw = .ok q) ↔ stringFault? raw = none := by
    simp only [ofRaw_eq_ok_iff]
    constructor
    · rintro ⟨q, rfl⟩
      exact q.fault_eq_none
    · exact fun h => ⟨⟨raw, h⟩, rfl⟩
  rw [haccepted, stringFault?_eq_none_iff, not_isLineControl_iff]
  constructor
  · rintro ⟨⟨inner, rfl, hinner⟩, hflat⟩
    exact ⟨inner, rfl, hinner, by simpa using hflat⟩
  · rintro ⟨inner, rfl, hinner, hflat⟩
    exact ⟨⟨inner, rfl, hinner⟩, by simpa using hflat⟩

theorem content_of_raw {q : QuotedText} {inner : Text} (h : q.raw = '"' :: (inner ++ ['"'])) :
    q.content = undoubleQuotes inner := by
  simp [content, h]

theorem quote_eq_ok_iff_raw {v : Text} {q : QuotedText} :
    quote v = .ok q ↔ q.raw = '"' :: (doubleQuotes v ++ ['"']) := by
  rw [quote, ofRaw_eq_ok_iff, List.cons_append]

/-- Quoting and taking the content are inverse to each other. -/
theorem quote_eq_ok_iff {v : Text} {q : QuotedText} : quote v = .ok q ↔ q.content = v := by
  rw [quote_eq_ok_iff_raw]
  constructor
  · intro h
    simp [content_of_raw h]
  · rintro rfl
    obtain ⟨inner, hraw, hinner⟩ := q.raw_eq
    rw [content_of_raw hraw, doubleQuotes_undoubleQuotes hinner, hraw]

theorem exists_quote_eq_ok_iff {v : Text} :
    (∃ q, quote v = .ok q) ↔ '\t' ∉ v ∧ '\n' ∉ v ∧ '\r' ∉ v := by
  rw [quote, List.cons_append, exists_ofRaw_eq_ok_iff]
  constructor
  · rintro ⟨inner, heq, -, hflat⟩
    have hinner : doubleQuotes v = inner := by simpa using heq
    simpa [← hinner, mem_doubleQuotes] using hflat
  · intro hflat
    exact ⟨doubleQuotes v, rfl, quotesDoubled_doubleQuotes v,
      by simpa [mem_doubleQuotes] using hflat⟩

/-- The accepted texts are what quoting makes of the texts without tab and line
break, and a quoted text comes from one text only, its content. -/
theorem quoting_is_bijective :
    (∀ raw, (∃ q, ofRaw raw = .ok q) ↔ ∃ inner, raw = '"' :: (inner ++ ['"']) ∧
      QuotesDoubled inner ∧ '\t' ∉ inner ∧ '\n' ∉ inner ∧ '\r' ∉ inner) ∧
    (∀ raw, (∃ q, ofRaw raw = .ok q) ↔ ∃ v q, quote v = .ok q ∧ q.raw = raw) ∧
    (∀ v, (∃ q, quote v = .ok q) ↔ '\t' ∉ v ∧ '\n' ∉ v ∧ '\r' ∉ v) ∧
    (∀ v q, quote v = .ok q ↔ q.content = v) ∧
    ∀ q : QuotedText, quote q.content = .ok q := by
  refine ⟨fun raw => exists_ofRaw_eq_ok_iff, fun raw => ?_, fun v => exists_quote_eq_ok_iff,
    fun v q => quote_eq_ok_iff, fun q => quote_eq_ok_iff.2 rfl⟩
  simp only [ofRaw_eq_ok_iff, quote_eq_ok_iff]
  constructor
  · rintro ⟨q, hraw⟩
    exact ⟨q.content, q, rfl, hraw⟩
  · rintro ⟨v, q, -, hraw⟩
    exact ⟨q, hraw⟩

/-- Of three quotes in a row the outer two do not enclose a paired one. -/
example : quote "a\"\"b".toList = ofRaw "\"a\"\"\"\"b\"".toList ∧
    stringFault? "\"\"\"".toList = some .unescapedQuote := by decide +kernel

end QuotedText

end NCBlock
