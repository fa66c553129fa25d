import NCBlock.Proofs.Text.Blank
import NCBlock.Proofs.Token.Literal
import NCBlock.Token.Scan

/-!
Rows of tokens: tokens with runs of blanks between them. A region is accepted
exactly when it is a row with blanks around it, and the tokens found are those
of the row. The scan from the left can find no others, because a token ends
where a blank or the end of the text comes next, and no token holds a blank at
either of its ends.
-/

namespace NCBlock

open Text

/-- A letter or a star, with a literal behind it. -/
inductive IsToken : Text → Prop
  | intro {c : Char} {literal : Text} : isTokenLetter c = true → IsLiteral literal →
      IsToken (c :: literal)

inductive TokenRow : List Text → Text → Prop
  | last {token : Text} : IsToken token → TokenRow [token] token
  | cons {token gap rest : Text} {tokens : List Text} : IsToken token → gap ≠ [] → AllBlank gap →
      TokenRow tokens rest → TokenRow (token :: tokens) (token ++ gap ++ rest)

/-! ### The ends of tokens -/

theorem not_isBlank_of_lt {c : Char} (hlow : 0x20 < c.toNat) (hhigh : c.toNat < 0x85) :
    isBlank c = false := by
  simp only [isBlank, blankRanges, inRanges, Bool.and_eq_false_iff, Bool.or_eq_false_iff,
    decide_eq_false_iff_not]
  omega

theorem isTokenLetter_iff {c : Char} :
    isTokenLetter c = true ↔ 65 ≤ c.toNat ∧ c.toNat ≤ 90 ∨ c = '*' := by
  simp only [isTokenLetter, Bool.or_eq_true, Bool.and_eq_true, decide_eq_true_eq]
  exact Iff.rfl

theorem not_isBlank_of_isTokenLetter {c : Char} (h : isTokenLetter c = true) :
    isBlank c = false := by
  rcases isTokenLetter_iff.1 h with hc | rfl
  · exact not_isBlank_of_lt (by omega) (by omega)
  · decide

theorem IsNumber.not_isBlank {t : Text} (h : IsNumber t) : ∀ c ∈ t, isBlank c = false := by
  intro c hc
  rcases h.mem_cases hc with rfl | rfl | rfl | hdigit
  · decide
  · decide
  · decide
  · exact not_isBlank_of_isDecimalDigit hdigit

theorem IsLiteral.solidEnd {t : Text} (h : IsLiteral t) : SolidEnd t := by
  cases h with
  | absent => exact solidEnd_nil
  | @quoted inner hinner =>
      rw [← List.cons_append]
      exact solidEnd_concat.2 (by decide)
  | number hnumber => exact (trimmed_of_forall hnumber.not_isBlank).stop

theorem IsToken.ne_nil {t : Text} (h : IsToken t) : t ≠ [] := by
  cases h with
  | intro => exact List.cons_ne_nil _ _

theorem IsToken.trimmed {t : Text} (h : IsToken t) : Trimmed t := by
  cases h with
  | @intro c literal hc hliteral =>
      have hblank := not_isBlank_of_isTokenLetter hc
      refine ⟨solidStart_cons.2 hblank, ?_⟩
      by_cases hnil : literal = []
      · rw [hnil]
        exact solidEnd_concat (t := []).2 hblank
      · exact SolidEnd.append (t := [c]) hliteral.solidEnd hnil

theorem atGap_append {gap rest : Text} (hne : gap ≠ []) (hgap : AllBlank gap) :
    AtGap (gap ++ rest) := by
  cases gap with
  | nil => exact absurd rfl hne
  | cons c gap => exact atGap_cons.2 (allBlank_cons.1 hgap).1

theorem TokenRow.ne_nil {tokens : List Text} {row : Text} (h : TokenRow tokens row) :
    tokens ≠ [] ∧ row ≠ [] := by
  cases h with
  | last htoken => exact ⟨List.cons_ne_nil _ _, htoken.ne_nil⟩
  | cons htoken => exact ⟨List.cons_ne_nil _ _, by simp [htoken.ne_nil]⟩

theorem TokenRow.isToken {tokens : List Text} {row t : Text} (h : TokenRow tokens row)
    (ht : t ∈ tokens) : IsToken t := by
  induction h with
  | last htoken =>
      obtain rfl := List.mem_singleton.1 ht
      exact htoken
  | cons htoken _ _ _ ih =>
      rcases List.mem_cons.1 ht with rfl | ht
      · exact htoken
      · exact ih ht

theorem TokenRow.isInfix {tokens : List Text} {row t : Text} (h : TokenRow tokens row)
    (ht : t ∈ tokens) : t <:+: row := by
  induction h with
  | last =>
      obtain rfl := List.mem_singleton.1 ht
      exact List.infix_refl t
  | @cons token gap rest tokens _ _ _ _ ih =>
      rcases List.mem_cons.1 ht with rfl | ht
      · rw [List.append_assoc]
        exact (List.prefix_append _ _).isInfix
      · exact (ih ht).trans (List.suffix_append _ _).isInfix

/-- A row starts with its first token, and a gap or the end comes behind it. -/
theorem TokenRow.eq_append_of_head {token row : Text} {tokens : List Text}
    (h : TokenRow (token :: tokens) row) : ∃ after, row = token ++ after ∧ AtGap after := by
  cases h with
  | last => exact ⟨[], (List.append_nil _).symm, atGap_nil⟩
  | @cons _ gap rest _ _ hne hgap _ =>
      exact ⟨gap ++ rest, List.append_assoc _ _ _, atGap_append hne hgap⟩

theorem TokenRow.eq_append_of_last {token row : Text} {tokens : List Text}
    (h : TokenRow tokens row) (hlast : tokens.getLast? = some token) :
    ∃ before, row = before ++ token := by
  induction h with
  | last =>
      cases hlast
      exact ⟨[], rfl⟩
  | @cons first gap rest tokens _ _ _ hrow ih =>
      rw [List.getLast?_cons_of_ne_nil hrow.ne_nil.1] at hlast
      obtain ⟨before, rfl⟩ := ih hlast
      exact ⟨first ++ gap ++ before, by simp only [List.append_assoc]⟩

theorem tokenRow_spaced {tokens : List Text} (hne : tokens ≠ [])
    (h : ∀ t ∈ tokens, IsToken t) : TokenRow tokens (spaced tokens) := by
  induction tokens with
  | nil => exact absurd rfl hne
  | cons t tokens ih =>
      have ht := h t List.mem_cons_self
      cases tokens with
      | nil => exact .last ht
      | cons u tokens =>
          have hrest := ih (List.cons_ne_nil u tokens) fun v hv => h v (List.mem_cons_of_mem t hv)
          have hblank : AllBlank [' '] := allBlank_singleton.2 (by decide)
          rw [spaced_cons_cons, List.append_cons]
          exact .cons ht (List.cons_ne_nil _ _) hblank hrest

/-! ### One token -/

theorem token?_append_of {token rest : Text} (htoken : IsToken token) (hrest : AtGap rest) :
    token? (token ++ rest) = some (token, rest.tail) := by
  cases htoken with
  | intro hc hliteral =>
      rw [List.cons_append, token?, if_pos hc, spanLiteral_append_of hliteral hrest]
      cases rest with
      | nil => rfl
      | cons d rest => simp [atGap_cons.1 hrest]

/-- A token is followed by one blank or ends the text. -/
theorem token?_eq_some {t token after : Text} (h : token? t = some (token, after)) :
    IsToken token ∧ (t = token ∧ after = [] ∨ ∃ d, isBlank d = true ∧ t = token ++ d :: after) := by
  cases t with
  | nil => simp [token?] at h
  | cons c t =>
      have hwhole := spanLiteral_append t
      have hliteral := isLiteral_spanLiteral t
      rw [token?] at h
      split at h
      next hc =>
        split at h
        next literal heq =>
          rw [heq] at hwhole hliteral
          obtain ⟨rfl, rfl⟩ := Prod.mk.inj (Option.some.inj h)
          refine ⟨.intro hc hliteral, .inl ⟨?_, rfl⟩⟩
          rw [← hwhole, List.append_nil]
        next literal d rest heq =>
          rw [heq] at hwhole hliteral
          simp only [Option.ite_none_right_eq_some, Option.some.injEq, Prod.mk.injEq] at h
          obtain ⟨hd, rfl, rfl⟩ := h
          refine ⟨.intro hc hliteral, .inr ⟨d, hd, ?_⟩⟩
          rw [← hwhole, List.cons_append]
      next => cases h

theorem token?_of_blank {c : Char} (hc : isBlank c = true) (t : Text) :
    token? (c :: t) = none := by
  rw [token?, if_neg]
  intro hletter
  rw [not_isBlank_of_isTokenLetter hletter] at hc
  cases hc

/-! ### The scan -/

theorem scan_nil : Scan.ofText [] = ⟨[], []⟩ := by rw [Scan.ofText]

theorem scan_of_token {t token after : Text} (h : token? t = some (token, after)) :
    Scan.ofText t = ⟨token :: (Scan.ofText after).tokens, (Scan.ofText after).residue⟩ := by
  cases t with
  | nil => simp [token?] at h
  | cons c t =>
      rw [Scan.ofText]
      split
      next heq =>
        rw [h] at heq
        obtain ⟨rfl, rfl⟩ := Prod.mk.inj (Option.some.inj heq)
        rfl
      next heq =>
        rw [h] at heq
        cases heq

theorem scan_of_none {c : Char} {t : Text} (h : token? (c :: t) = none) :
    Scan.ofText (c :: t) = ⟨(Scan.ofText t).tokens, c :: (Scan.ofText t).residue⟩ := by
  rw [Scan.ofText]
  split
  next heq =>
    rw [h] at heq
    cases heq
  next => rfl

theorem scan_blank_append {w : Text} (hw : AllBlank w) (t : Text) :
    Scan.ofText (w ++ t) = ⟨(Scan.ofText t).tokens, w ++ (Scan.ofText t).residue⟩ := by
  induction w with
  | nil => rfl
  | cons c w ih =>
      obtain ⟨hc, hw⟩ := allBlank_cons.1 hw
      rw [List.cons_append, scan_of_none (token?_of_blank hc _), ih hw]
      rfl

theorem scan_of_blank {w : Text} (hw : AllBlank w) : Scan.ofText w = ⟨[], w⟩ := by
  have h := scan_blank_append hw []
  simpa only [List.append_nil, scan_nil] using h

/-- The scan of a row finds its tokens and leaves over nothing but blanks. -/
theorem scan_of_row {tokens : List Text} {row trail : Text} (h : TokenRow tokens row)
    (htrail : AllBlank trail) :
    (Scan.ofText (row ++ trail)).tokens = tokens ∧
      AllBlank (Scan.ofText (row ++ trail)).residue := by
  induction h with
  | last htoken =>
      have hgap : AtGap trail := fun c hc => htrail c (List.mem_of_mem_head? hc)
      have htail : AllBlank trail.tail := fun c hc => htrail c (List.mem_of_mem_tail hc)
      rw [scan_of_token (token?_append_of htoken hgap), scan_of_blank htail]
      exact ⟨rfl, htail⟩
  | @cons token gap rest tokens htoken hne hgap _ ih =>
      -- the token takes the first blank of the gap with it, and the others are left over
      obtain ⟨d, gap, rfl⟩ := List.exists_cons_of_ne_nil hne
      obtain ⟨hd, hgap⟩ := allBlank_cons.1 hgap
      have hsplit : token ++ d :: gap ++ rest ++ trail =
          token ++ d :: (gap ++ (rest ++ trail)) := by
        simp only [List.append_assoc, List.cons_append]
      rw [hsplit, scan_of_token (token?_append_of htoken (atGap_cons.2 hd)), List.tail_cons,
        scan_blank_append hgap]
      exact ⟨congrArg _ ih.1, allBlank_append.2 ⟨hgap, ih.2⟩⟩

/-- A scan that leaves over nothing but blanks has gone along a row. -/
theorem row_of_scan {t : Text} (h : AllBlank (Scan.ofText t).residue) :
    (Scan.ofText t).tokens = [] ∧ AllBlank t ∨
      ∃ lead row trail, AllBlank lead ∧ AllBlank trail ∧ t = lead ++ row ++ trail ∧
        TokenRow (Scan.ofText t).tokens row := by
  fun_induction Scan.ofText t with
  | case1 => exact .inl ⟨rfl, allBlank_nil⟩
  | case2 c rest token after htoken _ scan ih =>
      refine .inr ⟨[], ?_⟩
      obtain ⟨hIsToken, ⟨heq, rfl⟩ | ⟨d, hd, heq⟩⟩ := token?_eq_some htoken
      · have hnil : scan = ⟨[], []⟩ := scan_nil
        rw [heq, hnil]
        exact ⟨token, [], allBlank_nil, allBlank_nil, by simp, .last hIsToken⟩
      · rw [heq]
        rcases ih h with ⟨htokens, hblank⟩ | ⟨lead, row, trail, hlead, htrail, hsplit, hrow⟩
        · rw [htokens]
          exact ⟨token, d :: after, allBlank_nil, allBlank_cons.2 ⟨hd, hblank⟩, rfl,
            .last hIsToken⟩
        · refine ⟨token ++ d :: lead ++ row, trail, allBlank_nil, htrail, ?_,
            .cons hIsToken (List.cons_ne_nil d lead) (allBlank_cons.2 ⟨hd, hlead⟩) hrow⟩
          rw [hsplit]
          simp only [List.append_assoc, List.cons_append, List.nil_append]
  | case3 c rest _ scan ih =>
      -- no token starts here, so this is a blank and the row starts further on
      obtain ⟨hc, hresidue⟩ := allBlank_cons.1 h
      rcases ih hresidue with ⟨htokens, hblank⟩ | ⟨lead, row, trail, hlead, htrail, hsplit, hrow⟩
      · exact .inl ⟨htokens, allBlank_cons.2 ⟨hc, hblank⟩⟩
      · exact .inr ⟨c :: lead, row, trail, allBlank_cons.2 ⟨hc, hlead⟩, htrail,
          by rw [hsplit]; rfl, hrow⟩

/-! ### Regions -/

theorem tokens_eq_ok_iff {region : Text} {ts : List Text} :
    tokens region = .ok ts ↔ ∃ lead row trail, AllBlank lead ∧ AllBlank trail ∧
      region = lead ++ row ++ trail ∧ TokenRow ts row := by
  constructor
  · intro h
    simp only [tokens] at h
    split at h
    · cases h
    next hne =>
      split at h
      · cases h
      next hresidue =>
        cases h
        rcases row_of_scan (trim_eq_nil_iff.1 (not_not.1 hresidue)) with ⟨hnil, -⟩ | hrow
        · exact absurd hnil hne
        · exact hrow
  · rintro ⟨lead, row, trail, hlead, htrail, rfl, hrow⟩
    obtain ⟨htokens, hresidue⟩ := scan_of_row hrow htrail
    have hblank : trim (lead ++ (Scan.ofText (row ++ trail)).residue) = [] :=
      trim_eq_nil_iff.2 (allBlank_append.2 ⟨hlead, hresidue⟩)
    rw [List.append_assoc]
    simp [tokens, scan_blank_append hlead, hblank, htokens, hrow.ne_nil.1]

theorem tokens_eq_ok_iff_of_trimmed {region : Text} {ts : List Text} (hregion : Trimmed region) :
    tokens region = .ok ts ↔ TokenRow ts region := by
  rw [tokens_eq_ok_iff]
  constructor
  · rintro ⟨lead, row, trail, hlead, htrail, rfl, hrow⟩
    have hleadNil := hlead.eq_nil_of_solidStart hregion.start.left.left
    have htrailNil := htrail.eq_nil_of_solidEnd hregion.stop.right
    rw [hleadNil, htrailNil, List.nil_append, List.append_nil]
    exact hrow
  · intro h
    exact ⟨[], region, [], allBlank_nil, allBlank_nil, by simp, h⟩

end NCBlock
