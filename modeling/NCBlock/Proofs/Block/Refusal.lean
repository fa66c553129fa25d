import NCBlock.Proofs.Block.Failure
import NCBlock.Proofs.Block.Grammar
import NCBlock.Proofs.Gcode.Refusal
import NCBlock.Proofs.Token.Coverage

/-!
The ways in which a line is refused. Scanning and reading a token share one
grammar of literals, and a normal line has no control character that a string
could be refused for. What is left to refuse in a token is a letter that is no
word, or a number that has no value of its kind.
-/

namespace NCBlock

/-! ### Literals -/

section

variable {l : Text}

theorem IsLiteral.stringFault?_eq_none (h : IsLiteral l) (hquote : '"' ∈ l)
    (hflat : ∀ c ∈ l, isLineControl c = false) : stringFault? l = none := by
  cases h with
  | absent => cases hquote
  | quoted hinner => exact stringFault?_eq_none_iff.2 ⟨⟨_, rfl, hinner⟩, hflat⟩
  | number hnumber => exact absurd hquote hnumber.not_mem_quote

theorem IsLiteral.isNumber (h : IsLiteral l) (hquote : '"' ∉ l) (hne : l ≠ []) : IsNumber l := by
  cases h with
  | absent => exact absurd rfl hne
  | quoted => exact absurd List.mem_cons_self hquote
  | number hnumber => exact hnumber

theorem exists_spelled_of_isLiteral {w : Word} (hfree : w.isReserved = false) (h : IsLiteral l)
    (hflat : ∀ c ∈ l, isLineControl c = false) (hfit : ¬Unfit l) :
    ∃ g, Gcode.Spelled (w.letter :: l) g := by
  by_cases hquote : '"' ∈ l
  · exact ⟨_, .string ⟨l, h.stringFault?_eq_none hquote hflat⟩ hfree⟩
  · by_cases hnil : l = []
    · rw [hnil]
      exact ⟨_, .bare w⟩
    · have hsome : Literal.ofNumber? l ≠ none :=
        fun hnone => hfit (unfit_of_ofNumber?_eq_none (h.isNumber hquote hnil) hnone)
      obtain ⟨literal, hliteral⟩ := Option.ne_none_iff_exists'.1 hsome
      rcases Literal.ofNumber?_eq_some_iff.1 hliteral with ⟨v, hv, -⟩ | ⟨-, i, hi, -⟩
      · exact ⟨_, .float hfree hv⟩
      · exact ⟨_, .int hfree hi⟩

end

namespace Block

open Line

/-- What a line can be refused for. -/
inductive Refusal : Error → Prop
  | noCommand {region : Text} : Refusal (.noCommand region)
  | undefinedSymbols {residue : Text} : Refusal (.undefinedSymbols residue)
  | word {c : Char} : 'A' ≤ c → c ≤ 'Z' → c ∉ alphabet → Refusal (.invalidWord c.toUInt8)
  | count {mark : Char} {l : Text} : mark = 'N' ∨ mark = '*' → l ≠ [] → (∀ n, ¬Counts l n) →
      Refusal (.unrecognizedToken (mark :: l))
  | number {c : Char} {l : Text} : isTokenLetter c = true → ¬(c = 'N' ∨ c = '*') → Unfit l →
      Refusal (.unrecognizedToken (c :: l))

variable {e : Error}

/-! ### Tokens -/

section

variable {c : Char} {l : Text}

theorem refusal_of_reserved (hc : c = 'N' ∨ c = '*') (h : Gcode.ofToken (c :: l) = .error e) :
    Refusal e := by
  obtain ⟨w, rfl⟩ : ∃ w : Word, w.letter = c := by
    rcases hc with rfl | rfl
    · exact ⟨.lineNumber, rfl⟩
    · exact ⟨.checksum, rfl⟩
  have hnot (g : Gcode) : ¬Gcode.Spelled (w.letter :: l) g := by
    intro hg
    rw [Gcode.ofToken_eq_ok_iff.2 hg] at h
    cases h
  have hne : l ≠ [] := by
    rintro rfl
    exact hnot _ (.bare w)
  have hcounts (n : UInt32) : ¬Counts l n :=
    fun hn => hnot _ (.count (Word.isReserved_iff.2 hc) hn.1 hn.2)
  have hnone : Text.toUInt32? l = none :=
    Option.eq_none_iff_forall_ne_some.2 fun n hn => hcounts n (Text.toUInt32?_eq_some_iff.1 hn)
  have hlow : w.letter.toNat < 0x80 := by
    have := w.toNat_letter_lt
    omega
  have hbyte : Word.ofByte (Word.leadByte w.letter) = .ok w := (Word.ofByte_leadByte hlow).2 rfl
  rw [Gcode.ofToken, Reading.ofToken, if_neg (Nat.not_le.2 hlow), Literal.ofText?, if_neg hne,
    if_pos hc, hnone] at h
  simp only [Option.map_none, hbyte] at h
  cases h
  exact .count hc hne hcounts

/-- Of the tokens of a normal line, only an unknown letter and a number of no
value are refused. -/
theorem refusal_of_isToken {t : Text} (ht : IsToken t) (hflat : ∀ c ∈ t, isLineControl c = false)
    (h : Gcode.ofToken t = .error e) : Refusal e := by
  cases ht with
  | @intro c l hletter hliteral =>
      have hlow : c.toNat < 0x80 := by
        rcases isTokenLetter_iff.1 hletter with hc | rfl
        · omega
        · decide
      by_cases hreserved : c = 'N' ∨ c = '*'
      · exact refusal_of_reserved hreserved h
      · by_cases hfit : Unfit l
        · rw [Gcode.ofToken_of_unfit hlow hreserved hfit] at h
          cases h
          exact .number hletter hreserved hfit
        · by_cases hword : c ∈ alphabet
          · have hfree : Word.isReserved ⟨c, hword⟩ = false := Word.not_isReserved_iff.2 hreserved
            obtain ⟨g, hg⟩ := exists_spelled_of_isLiteral hfree hliteral
              (fun d hd => hflat d (List.mem_cons_of_mem c hd)) hfit
            rw [Gcode.ofToken_eq_ok_iff.2 hg] at h
            cases h
          · rw [Gcode.ofToken_of_not_mem hlow hword hfit, leadByte_eq_toUInt8 hlow] at h
            cases h
            rcases isTokenLetter_iff.1 hletter with hc | rfl
            · exact .word hc.1 hc.2 hword
            · exact absurd (by decide) hword

end

/-! ### Sections -/

theorem refusal_of_sections {t : Text} (h : sections t = .error e) : Refusal e := by
  rw [sections] at h
  split at h
  next hnumber =>
    cases h
    obtain ⟨digits, rest, hopens, hcounts, rfl⟩ := takeLineNumber_eq_error_iff.1 hnumber
    exact .count (.inl rfl) hopens.2.1 hcounts
  next rest _ =>
    split at h
    next hchecksum =>
      cases h
      obtain ⟨before, digits, hends, hcounts, rfl⟩ := takeChecksum_eq_error_iff.1 hchecksum
      exact .count (.inr rfl) hends.2.1 hcounts
    next => cases h

theorem isNormal_region {t : Text} {parts : Sections} (ht : IsNormal t)
    (h : sections t = .ok parts) : IsNormal parts.region := by
  obtain ⟨before, rest, hcomment, hnumber, hchecksum⟩ := (sections_eq_ok_iff ht).1 h
  have hregion := region_isInfix ht hcomment hnumber hchecksum
  exact ht.of_isInfix (hregion.trans hcomment.isPrefix.isInfix)
    (trimmed_region ht hcomment hnumber hchecksum)

/-! ### Lines -/

theorem isToken_of_tokens {region : Text} {ts : List Text} (hregion : IsNormal region)
    (h : tokens region = .ok ts) {t : Text} (ht : t ∈ ts) :
    IsToken t ∧ ∀ c ∈ t, isLineControl c = false := by
  have hrow := (tokens_eq_ok_iff_of_trimmed hregion.trimmed).1 h
  exact ⟨hrow.isToken ht, fun c hc => hregion.flat c ((hrow.isInfix ht).subset hc)⟩

theorem refusal_of_stages {line : Text} (h : parse line = .error e) : Refusal e := by
  rw [parse, parseWith] at h
  split at h
  next hsections =>
    cases h
    exact refusal_of_sections hsections
  next parts hsections =>
    have hregion := isNormal_region (isNormal_normalize line) hsections
    rcases tokens_cases parts.region with ⟨texts, htokens⟩ | htokens | ⟨-, htokens⟩
    · rw [htokens] at h
      dsimp only at h
      split at h
      next hmade =>
        cases h
        obtain ⟨t, ht, hrefused⟩ := Dialect.exists_of_ofTokens_stock (by rw [hmade])
        rw [Dialect.ofToken_stock] at hrefused
        obtain ⟨htoken, hflat⟩ := isToken_of_tokens hregion htokens ht
        exact refusal_of_isToken htoken hflat hrefused
      next =>
        cases h
        exact .noCommand
      next => cases h
    · rw [htokens] at h
      cases h
      exact .noCommand
    · rw [htokens] at h
      cases h
      exact .undefinedSymbols

theorem Refusal.isReading (h : Refusal e) : e.IsReading := by
  cases h with
  | noCommand => exact .noCommand
  | undefinedSymbols => exact .undefinedSymbols
  | word => exact .invalidWord
  | count => exact .unrecognizedToken
  | number => exact .unrecognizedToken

/-- A line that is no block is refused for what stands in it. -/
theorem isReading_of_parse {line : Text} (h : parse line = .error e) : e.IsReading :=
  (refusal_of_stages h).isReading

/-- A line is refused in one of a few ways, and never for a string: what the
scan takes for a string or a number behind a letter is one. -/
theorem refusal_of_parse (line : Text) :
    (∀ e, parse line = .error e → Refusal e) ∧
    (∀ raw fault, parse line ≠ .error (.invalidString raw fault)) ∧
    (∀ parts, sections (normalize line) = .ok parts →
      normalize parts.region = parts.region) ∧
    ∀ region ts, normalize region = region → tokens region = .ok ts →
      ∀ t ∈ ts, ∃ c l, t = c :: l ∧ ('"' ∈ l → stringFault? l = none) ∧
        ('"' ∉ l → l ≠ [] → isNumber l = true) := by
  refine ⟨fun e => refusal_of_stages, fun raw fault h => ?_, fun parts h => ?_,
    fun region ts hregion hts t ht => ?_⟩
  · cases refusal_of_stages h
  · exact (isNormal_region (isNormal_normalize line) h).normalize
  · have hnormal : IsNormal region := hregion ▸ isNormal_normalize region
    obtain ⟨⟨hletter, hliteral⟩, hflat⟩ := isToken_of_tokens hnormal hts ht
    refine ⟨_, _, rfl, fun hquote => ?_, fun hquote hne => ?_⟩
    · exact hliteral.stringFault?_eq_none hquote fun d hd => hflat d (List.mem_cons_of_mem _ hd)
    · exact isNumber_iff.2 (hliteral.isNumber hquote hne)

/-- The doubled quotes are no fault, and the long number is refused before its letter. -/
theorem refusal_of_parse_long_number :
    (∃ e, parse "m117 p\"a\"\"b\" k99999999999 *7 ;c".toList = .error e ∧ Refusal e) ∧
      stringFault? "\"A\"\"B\"".toList = none := by
  obtain ⟨hrefusal, -, -, hagree⟩ :=
    refusal_of_parse "m117 p\"a\"\"b\" k99999999999 *7 ;c".toList
  have hparse : parse "m117 p\"a\"\"b\" k99999999999 *7 ;c".toList =
      .error (.unrecognizedToken "K99999999999".toList) := by decide +kernel
  have htokens : tokens "M117 P\"A\"\"B\" K99999999999".toList =
      .ok ["M117".toList, 'P' :: "\"A\"\"B\"".toList, "K99999999999".toList] := by
    decide +kernel
  refine ⟨⟨_, hparse, hrefusal _ hparse⟩, ?_⟩
  obtain ⟨c, l, heq, hquoted, -⟩ := hagree _ _ (by decide +kernel) htokens
    ('P' :: "\"A\"\"B\"".toList) (by simp)
  obtain ⟨-, rfl⟩ := List.cons.inj heq
  exact hquoted (by decide)

end Block

end NCBlock
