import NCBlock.Proofs.Token.Row

/-!
What a region is made of. An accepted region is covered by its tokens and the
blanks around them, in one way only. Whether a region holds a token at all is a
question of its suffixes, though the scan passes over those that start inside
of another token. What the scan leaves over is told by a relation that knows
nothing of how a token is found.
-/

namespace NCBlock

open Text

/-- Tokens, each with the blanks behind it. Only the last may have none. -/
inductive TokenCover : Text → List (Text × Text) → Prop
  | nil : TokenCover [] []
  | cons {token gap rest : Text} {pieces : List (Text × Text)} : IsToken token → AllBlank gap →
      (pieces ≠ [] → gap ≠ []) → TokenCover rest pieces →
      TokenCover (token ++ (gap ++ rest)) ((token, gap) :: pieces)

/-- A region split into blanks and at least one token. -/
structure Covers (region lead : Text) (pieces : List (Text × Text)) : Prop where
  blank : AllBlank lead
  occupied : pieces ≠ []
  split : ∃ rest, region = lead ++ rest ∧ TokenCover rest pieces

/-- A token stands at the start, with a blank or the end behind it. -/
def StartsToken (t : Text) : Prop :=
  ∃ token after, t = token ++ after ∧ IsToken token ∧ AtGap after

def HasToken (t : Text) : Prop := ∃ u, u <:+ t ∧ StartsToken u

/-- A scan from the left. A token is taken together with the blank behind it,
and a character is left over where no token starts. -/
inductive Scanned : Text → Scan → Prop
  | nil : Scanned [] ⟨[], []⟩
  | stop {token : Text} : IsToken token → Scanned token ⟨[token], []⟩
  | hit {token after : Text} {d : Char} {scan : Scan} : IsToken token → isBlank d = true →
      Scanned after scan → Scanned (token ++ d :: after) ⟨token :: scan.tokens, scan.residue⟩
  | skip {c : Char} {t : Text} {scan : Scan} : ¬StartsToken (c :: t) → Scanned t scan →
      Scanned (c :: t) ⟨scan.tokens, c :: scan.residue⟩

/-! ### Covers -/

theorem TokenCover.solidStart {t : Text} {pieces : List (Text × Text)} (h : TokenCover t pieces) :
    SolidStart t := by
  cases h with
  | nil => exact solidStart_nil
  | cons htoken => exact htoken.trimmed.start.append htoken.ne_nil

theorem TokenCover.atGap {gap rest : Text} {pieces : List (Text × Text)} (hgap : AllBlank gap)
    (hne : pieces ≠ [] → gap ≠ []) (h : TokenCover rest pieces) : AtGap (gap ++ rest) := by
  cases h with
  | nil =>
      rw [List.append_nil]
      exact fun c hc => hgap c (List.mem_of_mem_head? hc)
  | cons => exact atGap_append (hne (List.cons_ne_nil _ _)) hgap

/-- The gap behind a token tells where it ends, though a quoted token may hold blanks. -/
theorem token_append_inj {token token' after after' : Text} (htoken : IsToken token)
    (htoken' : IsToken token') (hafter : AtGap after) (hafter' : AtGap after')
    (h : token ++ after = token' ++ after') : token = token' ∧ after = after' := by
  have hfirst := token?_append_of htoken hafter
  rw [h, token?_append_of htoken' hafter'] at hfirst
  obtain ⟨rfl, -⟩ := Prod.mk.inj (Option.some.inj hfirst)
  exact ⟨rfl, List.append_cancel_left h⟩

theorem TokenCover.unique {t : Text} {pieces pieces' : List (Text × Text)}
    (h : TokenCover t pieces) (h' : TokenCover t pieces') : pieces = pieces' := by
  induction h generalizing pieces' with
  | nil =>
      generalize ht : ([] : Text) = t at h'
      cases h' with
      | nil => rfl
      | cons htoken => exact absurd (List.append_eq_nil_iff.1 ht.symm).1 htoken.ne_nil
  | @cons token gap rest pieces htoken hgap hne hrest ih =>
      generalize ht : token ++ (gap ++ rest) = t at h'
      cases h' with
      | nil => exact absurd (List.append_eq_nil_iff.1 ht).1 htoken.ne_nil
      | cons htoken' hgap' hne' hrest' =>
          obtain ⟨rfl, hafter⟩ := token_append_inj htoken htoken' (hrest.atGap hgap hne)
            (hrest'.atGap hgap' hne') ht
          obtain ⟨rfl, rfl⟩ := blank_append_inj hgap hgap' hrest.solidStart hrest'.solidStart hafter
          rw [ih hrest']

theorem Covers.unique {region lead lead' : Text} {pieces pieces' : List (Text × Text)}
    (h : Covers region lead pieces) (h' : Covers region lead' pieces') :
    lead = lead' ∧ pieces = pieces' := by
  obtain ⟨rest, hsplit, hrest⟩ := h.split
  obtain ⟨rest', hsplit', hrest'⟩ := h'.split
  obtain ⟨rfl, rfl⟩ := blank_append_inj h.blank h'.blank hrest.solidStart hrest'.solidStart
    (hsplit.symm.trans hsplit')
  exact ⟨rfl, hrest.unique hrest'⟩

theorem TokenRow.exists_cover {ts : List Text} {row trail : Text} (h : TokenRow ts row)
    (htrail : AllBlank trail) :
    ∃ pieces, TokenCover (row ++ trail) pieces ∧ pieces.map Prod.fst = ts := by
  induction h with
  | @last token htoken =>
      refine ⟨[(token, trail)], ?_, rfl⟩
      have hcover := TokenCover.cons htoken htrail (fun h => absurd rfl h) .nil
      rwa [List.append_nil] at hcover
  | @cons token gap rest ts htoken hne hgap _ ih =>
      obtain ⟨pieces, hcover, rfl⟩ := ih
      refine ⟨(token, gap) :: pieces, ?_, rfl⟩
      rw [List.append_assoc, List.append_assoc]
      exact .cons htoken hgap (fun _ => hne) hcover

theorem TokenCover.exists_row {t : Text} {pieces : List (Text × Text)} (h : TokenCover t pieces)
    (hne : pieces ≠ []) :
    ∃ row trail, AllBlank trail ∧ t = row ++ trail ∧ TokenRow (pieces.map Prod.fst) row := by
  induction h with
  | nil => exact absurd rfl hne
  | @cons token gap rest pieces htoken hgap hbetween hrest ih =>
      cases pieces with
      | nil =>
          cases hrest
          exact ⟨token, gap, hgap, by rw [List.append_nil], .last htoken⟩
      | cons piece pieces =>
          have hcons := List.cons_ne_nil piece pieces
          obtain ⟨row, trail, htrail, rfl, hrow⟩ := ih hcons
          refine ⟨token ++ gap ++ row, trail, htrail, ?_, .cons htoken (hbetween hcons) hgap hrow⟩
          simp only [List.append_assoc]

theorem tokens_eq_ok_iff_covers {region : Text} {ts : List Text} :
    tokens region = .ok ts ↔ ∃ lead pieces, Covers region lead pieces ∧
      pieces.map Prod.fst = ts := by
  rw [tokens_eq_ok_iff]
  constructor
  · rintro ⟨lead, row, trail, hlead, htrail, rfl, hrow⟩
    obtain ⟨pieces, hcover, rfl⟩ := hrow.exists_cover htrail
    have hne : pieces ≠ [] := fun h => hrow.ne_nil.1 (by rw [h, List.map_nil])
    exact ⟨lead, pieces, ⟨hlead, hne, row ++ trail, List.append_assoc _ _ _, hcover⟩, rfl⟩
  · rintro ⟨lead, pieces, ⟨hlead, hne, rest, rfl, hcover⟩, rfl⟩
    obtain ⟨row, trail, htrail, rfl, hrow⟩ := hcover.exists_row hne
    exact ⟨lead, row, trail, hlead, htrail, (List.append_assoc _ _ _).symm, hrow⟩

/-! ### Scans -/

theorem startsToken_iff {t : Text} :
    StartsToken t ↔ ∃ token after, token? t = some (token, after) := by
  constructor
  · rintro ⟨token, after, rfl, htoken, hafter⟩
    exact ⟨token, after.tail, token?_append_of htoken hafter⟩
  · rintro ⟨token, after, h⟩
    obtain ⟨htoken, ⟨rfl, -⟩ | ⟨d, hd, rfl⟩⟩ := token?_eq_some h
    · exact ⟨t, [], (List.append_nil t).symm, htoken, atGap_nil⟩
    · exact ⟨token, d :: after, rfl, htoken, atGap_cons.2 hd⟩

theorem not_startsToken_iff {t : Text} : ¬StartsToken t ↔ token? t = none := by
  rw [startsToken_iff, Option.eq_none_iff_forall_ne_some]
  simp

theorem not_startsToken_nil : ¬StartsToken [] := not_startsToken_iff.2 rfl

theorem scanned_ofText (t : Text) : Scanned t (Scan.ofText t) := by
  fun_induction Scan.ofText t with
  | case1 => exact .nil
  | case2 c rest token after htoken _ scan ih =>
      obtain ⟨hIsToken, ⟨heq, rfl⟩ | ⟨d, hd, heq⟩⟩ := token?_eq_some htoken
      · have hnil : scan = ⟨[], []⟩ := scan_nil
        rw [heq, hnil]
        exact .stop hIsToken
      · rw [heq]
        exact .hit hIsToken hd ih
  | case3 c rest hnone scan ih => exact .skip (not_startsToken_iff.2 hnone) ih

theorem Scanned.eq_ofText {t : Text} {scan : Scan} (h : Scanned t scan) : scan = Scan.ofText t := by
  induction h with
  | nil => exact scan_nil.symm
  | @stop token htoken =>
      have hfirst := token?_append_of htoken atGap_nil
      rw [List.append_nil] at hfirst
      rw [scan_of_token hfirst, List.tail_nil, scan_nil]
  | hit htoken hd _ ih =>
      rw [scan_of_token (token?_append_of htoken (atGap_cons.2 hd)), List.tail_cons, ← ih]
  | skip hstart _ ih => rw [scan_of_none (not_startsToken_iff.1 hstart), ← ih]

theorem hasToken_cons {c : Char} {t : Text} :
    HasToken (c :: t) ↔ StartsToken (c :: t) ∨ HasToken t := by
  simp only [HasToken, List.suffix_cons_iff, or_and_right, exists_or, exists_eq_left]

/-- A scan that comes upon a token takes that token or has taken another. -/
theorem Scanned.tokens_ne_nil_iff {t : Text} {scan : Scan} (h : Scanned t scan) :
    scan.tokens ≠ [] ↔ HasToken t := by
  induction h with
  | nil =>
      refine iff_of_false (not_not.2 rfl) ?_
      rintro ⟨u, hu, hstart⟩
      rw [List.suffix_nil.1 hu] at hstart
      exact not_startsToken_nil hstart
  | @stop token htoken =>
      exact iff_of_true (List.cons_ne_nil _ _)
        ⟨token, List.suffix_rfl, token, [], (List.append_nil _).symm, htoken, atGap_nil⟩
  | @hit token after d scan htoken hd =>
      exact iff_of_true (List.cons_ne_nil _ _)
        ⟨_, List.suffix_rfl, token, d :: after, rfl, htoken, atGap_cons.2 hd⟩
  | skip hstart _ ih => rw [ih, hasToken_cons, or_iff_right hstart]

/-! ### Regions -/

theorem tokens_eq_noCommand_iff {region : Text} :
    tokens region = .error (.noCommand region) ↔ ¬HasToken region := by
  rw [← (scanned_ofText region).tokens_ne_nil_iff, not_not, tokens]
  constructor
  · intro h
    by_contra hne
    simp only [if_neg hne] at h
    split at h <;> simp at h
  · intro h
    simp only [if_pos h]

theorem tokens_cases (region : Text) :
    (∃ ts, tokens region = .ok ts) ∨ tokens region = .error (.noCommand region) ∨
      trim (Scan.ofText region).residue ≠ [] ∧
        tokens region = .error (.undefinedSymbols (trim (Scan.ofText region).residue)) := by
  simp only [tokens]
  split
  · exact .inr (.inl rfl)
  · split
    next hresidue => exact .inr (.inr ⟨hresidue, rfl⟩)
    · exact .inl ⟨_, rfl⟩

/-- The tokens of a region cover it up to blanks, in the only way that it can be
covered. A region that cannot be covered holds no token, or some of it lies
outside the tokens that a scan takes, and this is reported without the blanks
at its ends. -/
theorem tokens_accounts_for_region (region : Text) :
    (∀ ts, tokens region = .ok ts ↔
      ∃ lead pieces, Covers region lead pieces ∧ pieces.map Prod.fst = ts) ∧
    (∀ lead pieces lead' pieces', Covers region lead pieces → Covers region lead' pieces' →
      lead = lead' ∧ pieces = pieces') ∧
    (tokens region = .error (.noCommand region) ↔ ¬HasToken region) ∧
    (∃! scan, Scanned region scan) ∧
    ((∀ ts, tokens region ≠ .ok ts) → tokens region ≠ .error (.noCommand region) →
      ∃ scan, Scanned region scan ∧ trim scan.residue ≠ [] ∧ Trimmed (trim scan.residue) ∧
        tokens region = .error (.undefinedSymbols (trim scan.residue))) := by
  refine ⟨fun ts => tokens_eq_ok_iff_covers, fun _ _ _ _ => Covers.unique, tokens_eq_noCommand_iff,
    ⟨Scan.ofText region, scanned_ofText region, fun _ => Scanned.eq_ofText⟩, ?_⟩
  intro hok hnone
  rcases tokens_cases region with ⟨ts, hts⟩ | hno | ⟨hresidue, herror⟩
  · exact absurd hts (hok ts)
  · exact absurd hno hnone
  · exact ⟨_, scanned_ofText region, hresidue, trimmed_trim _, herror⟩

/-- The scan starts anew inside what is left over: the digits in front do not
hide the token, and the letter of the open quote goes with its text. -/
theorem tokens_accounts_for_region_open_quote :
    (tokens "12G1 X\"a b".toList = .error (.undefinedSymbols "12X\"a b".toList)) ∧
      ∃ scan, Scanned "12G1 X\"a b".toList scan ∧ trim scan.residue ≠ [] ∧
        Trimmed (trim scan.residue) ∧
        tokens "12G1 X\"a b".toList = .error (.undefinedSymbols (trim scan.residue)) := by
  have hresult : tokens "12G1 X\"a b".toList = .error (.undefinedSymbols "12X\"a b".toList) := by
    decide +kernel
  obtain ⟨-, -, -, -, hother⟩ := tokens_accounts_for_region "12G1 X\"a b".toList
  refine ⟨hresult, hother ?_ ?_⟩
  · rw [hresult]
    exact fun ts h => nomatch h
  · rw [hresult]
    exact fun h => nomatch h

end NCBlock
