import NCBlock.Block.Text
import NCBlock.Proofs.Line.Cuts

/-!
What a dialect is handed of a line. The tokens are worked off from the left, and
a token that can be read is handed to the dialect as one reading. The first that
cannot be read, or to which the dialect answers with an error, ends the line, and
the tokens behind it are not handed over. All gcodes of a block are answers.
-/

namespace NCBlock

variable {σ : Type}

namespace Dialect

/-- The answers to readings that are handed over one after another. -/
def answers (dialect : Dialect σ) : List Reading → σ → List (Except Error Gcode) × σ
  | [], s => ([], s)
  | r :: rest, s =>
    ((dialect.make r s).1 :: (dialect.answers rest (dialect.make r s).2).1,
      (dialect.answers rest (dialect.make r s).2).2)

/-- How a row of tokens is worked off: what is handed over, what is answered to
it, and what comes of the row. -/
inductive Handing : List Text → List Reading → List (Except Error Gcode) →
    Except Error (List Gcode) → Prop
  | done : Handing [] [] [] (.ok [])
  | unread {t : Text} {ts : List Text} {e : Error} : Reading.ofToken t = .error e →
      Handing (t :: ts) [] [] (.error e)
  | refused {t : Text} {ts : List Text} {r : Reading} {e : Error} : Reading.ofToken t = .ok r →
      Handing (t :: ts) [r] [.error e] (.error e)
  | made {t : Text} {ts : List Text} {r : Reading} {rs : List Reading} {g : Gcode}
      {answers : List (Except Error Gcode)} {result : Except Error (List Gcode)} :
      Reading.ofToken t = .ok r → Handing ts rs answers result →
      Handing (t :: ts) (r :: rs) (.ok g :: answers) (result.map (g :: ·))

/-- Makes no more gcodes than its state says. -/
def limited : Dialect Nat where
  make r n := if n = 0 then (.error (.invalidWord r.word), n) else (Gcode.ofReading r, n - 1)

variable (dialect : Dialect σ) {t : Text} {ts : List Text} {s s' : σ} {r : Reading} {e : Error}
  {g : Gcode}

/-! ### One token -/

theorem ofTokens_cons_of_unread (h : Reading.ofToken t = .error e) :
    dialect.ofTokens (t :: ts) s = (.error e, s) := by
  rw [ofTokens, ofToken, h]

theorem ofTokens_cons_of_refused (h : Reading.ofToken t = .ok r)
    (hmake : dialect.make r s = (.error e, s')) :
    dialect.ofTokens (t :: ts) s = (.error e, s') := by
  rw [ofTokens, ofToken, h]
  simp only [hmake]

theorem ofTokens_cons_of_made (h : Reading.ofToken t = .ok r)
    (hmake : dialect.make r s = (.ok g, s')) :
    dialect.ofTokens (t :: ts) s =
      ((dialect.ofTokens ts s').1.map (g :: ·), (dialect.ofTokens ts s').2) := by
  rw [ofTokens, ofToken, h]
  simp only [hmake]
  split <;> simp [*, Except.map]

theorem make_logged (log : List Reading) :
    dialect.logged.make r (log, s) =
      ((dialect.make r s).1, log ++ [r], (dialect.make r s).2) := rfl

/-! ### A row of tokens -/

theorem length_answers (calls : List Reading) (s : σ) :
    (dialect.answers calls s).1.length = calls.length := by
  induction calls generalizing s with
  | nil => rfl
  | cons r calls ih => exact congrArg Nat.succ (ih _)

theorem exists_handing (ts : List Text) (s : σ) : ∃ calls,
    Handing ts calls (dialect.answers calls s).1 (dialect.ofTokens ts s).1 ∧
      (dialect.answers calls s).2 = (dialect.ofTokens ts s).2 ∧
      ∀ log, dialect.logged.ofTokens ts (log, s) =
        ((dialect.ofTokens ts s).1, log ++ calls, (dialect.ofTokens ts s).2) := by
  induction ts generalizing s with
  | nil => exact ⟨[], .done, rfl, fun log => by simp [ofTokens]⟩
  | cons t ts ih =>
      cases hread : Reading.ofToken t with
      | error e =>
          rw [dialect.ofTokens_cons_of_unread hread]
          refine ⟨[], .unread hread, rfl, fun log => ?_⟩
          rw [ofTokens_cons_of_unread _ hread, List.append_nil]
      | ok r =>
          rcases hmake : dialect.make r s with ⟨e | g, s'⟩
          · rw [dialect.ofTokens_cons_of_refused hread hmake]
            refine ⟨[r], ?_, by simp [answers, hmake], fun log => ?_⟩
            · simp only [answers, hmake]
              exact .refused hread
            · refine ofTokens_cons_of_refused _ hread ?_
              rw [make_logged, hmake]
          · obtain ⟨calls, hcalls, hstate, hlog⟩ := ih s'
            rw [dialect.ofTokens_cons_of_made hread hmake]
            refine ⟨r :: calls, ?_, by simp [answers, hmake, hstate], fun log => ?_⟩
            · simp only [answers, hmake]
              exact .made hread hcalls
            · have hlogged : dialect.logged.make r (log, s) = (.ok g, log ++ [r], s') := by
                rw [make_logged, hmake]
              rw [ofTokens_cons_of_made _ hread hlogged, hlog, List.append_assoc,
                List.singleton_append]

namespace Handing

variable {calls : List Reading} {answers : List (Except Error Gcode)}
  {result : Except Error (List Gcode)}

/-- There is a call at most for each token, in order, and it is made with the reading of it. -/
theorem forall₂_take (h : Handing ts calls answers result) :
    List.Forall₂ (fun t r => Reading.ofToken t = .ok r) (ts.take calls.length) calls := by
  induction h with
  | done => exact .nil
  | unread => exact .nil
  | refused hread => exact .cons hread .nil
  | made hread _ ih => exact .cons hread ih

theorem eq_ok_iff (h : Handing ts calls answers result) {gs : List Gcode} :
    result = .ok gs ↔ calls.length = ts.length ∧ answers = gs.map .ok := by
  induction h generalizing gs with
  | done => simp [eq_comm]
  | unread => simp
  | refused =>
      refine iff_of_false nofun ?_
      rintro ⟨-, heq⟩
      cases gs with
      | nil => cases heq
      | cons g gs => cases heq
  | @made t ts r rs g answers result _ _ ih =>
      rw [Except.map_eq_ok_iff]
      constructor
      · rintro ⟨gs, hgs, rfl⟩
        obtain ⟨hlength, rfl⟩ := ih.1 hgs
        exact ⟨congrArg Nat.succ hlength, rfl⟩
      · rintro ⟨hlength, heq⟩
        cases gs with
        | nil => cases heq
        | cons g' gs =>
            obtain ⟨hg, hanswers⟩ := List.cons.inj heq
            cases hg
            exact ⟨gs, ih.2 ⟨Nat.succ.inj hlength, hanswers⟩, rfl⟩

/-- The row ends with the first token that cannot be read or is refused. -/
theorem stops (h : Handing ts calls answers (.error e)) :
    ∃ (before : List Text) (t : Text) (after : List Text) (gs : List Gcode),
      ts = before ++ t :: after ∧
        (calls.length = before.length ∧ answers = gs.map .ok ∧ Reading.ofToken t = .error e ∨
          calls.length = before.length + 1 ∧ answers = gs.map .ok ++ [.error e]) := by
  generalize hresult : Except.error e = result at h
  induction h with
  | done => cases hresult
  | @unread t ts _ hread =>
      cases hresult
      exact ⟨[], t, ts, [], rfl, .inl ⟨rfl, rfl, hread⟩⟩
  | @refused t ts r _ hread =>
      cases hresult
      exact ⟨[], t, ts, [], rfl, .inr ⟨rfl, rfl⟩⟩
  | @made t ts r rs g answers result _ _ ih =>
      obtain ⟨before, u, after, gs, rfl, hcases⟩ := ih (Except.map_eq_error_iff.1 hresult.symm).symm
      refine ⟨t :: before, u, after, g :: gs, rfl, ?_⟩
      rcases hcases with ⟨hlength, rfl, hread⟩ | ⟨hlength, rfl⟩
      · exact .inl ⟨congrArg Nat.succ hlength, rfl, hread⟩
      · exact .inr ⟨congrArg Nat.succ hlength, rfl⟩

end Handing

end Dialect

theorem ne_nil_of_tokens {region : Text} {ts : List Text} (h : tokens region = .ok ts) :
    ts ≠ [] := by
  rw [tokens] at h
  split at h
  · cases h
  next hne =>
    split at h
    · cases h
    · cases h
      exact hne

namespace Block

open Line

/-- What is to be said of a line with these sections and tokens when a dialect
in state `s` was handed `calls`. -/
structure Served (dialect : Dialect σ) (s : σ) (parts : Sections) (texts : List Text)
    (calls : List Reading) (outcome : Except Error Block × σ) : Prop where
  readings : List.Forall₂ (fun t r => Reading.ofToken t = .ok r) (texts.take calls.length) calls
  state : outcome.2 = (dialect.answers calls s).2
  block : ∀ b, outcome.1 = .ok b ↔ calls.length = texts.length ∧
    (dialect.answers calls s).1 = (b.command :: b.parameters).map .ok ∧
    b.lineNumber = parts.lineNumber ∧ b.checksum = parts.checksum ∧ b.comment = parts.comment
  error : ∀ e, outcome.1 = .error e →
    ∃ (before : List Text) (t : Text) (after : List Text) (gs : List Gcode),
      texts = before ++ t :: after ∧
        (calls.length = before.length ∧ (dialect.answers calls s).1 = gs.map .ok ∧
            Reading.ofToken t = .error e ∨
          calls.length = before.length + 1 ∧
            (dialect.answers calls s).1 = gs.map .ok ++ [.error e])

variable (dialect : Dialect σ) {line : Text} {s : σ} {parts : Sections} {texts : List Text}

theorem exists_served (hparts : sections (normalize line) = .ok parts)
    (htexts : tokens parts.region = .ok texts) : ∃ calls,
      (∀ log, parseWith dialect.logged line (log, s) =
        ((parseWith dialect line s).1, log ++ calls, (parseWith dialect line s).2)) ∧
      Served dialect s parts texts calls (parseWith dialect line s) := by
  obtain ⟨calls, hcalls, hstate, hlog⟩ := dialect.exists_handing texts s
  have hne := ne_nil_of_tokens htexts
  simp only [parseWith, hparts, htexts, hlog]
  refine ⟨calls, ?_⟩
  rcases hmade : dialect.ofTokens texts s with ⟨e | gs, s'⟩
  · rw [hmade] at hcalls hstate
    refine ⟨fun _ => rfl, hcalls.forall₂_take, hstate.symm, fun b => ?_, fun e he => ?_⟩
    · refine iff_of_false nofun ?_
      rintro ⟨hlength, hanswers, -⟩
      cases hcalls.eq_ok_iff.2 ⟨hlength, hanswers⟩
    · cases he
      exact hcalls.stops
  · rw [hmade] at hcalls hstate
    obtain ⟨hlength, hanswers⟩ := hcalls.eq_ok_iff.1 rfl
    cases gs with
    | nil =>
        have hcount := dialect.length_answers calls s
        rw [hanswers, hlength] at hcount
        exact absurd (List.eq_nil_of_length_eq_zero hcount.symm) hne
    | cons g gs =>
        refine ⟨fun _ => rfl, hcalls.forall₂_take, hstate.symm, fun b => ?_, nofun⟩
        constructor
        · intro h
          cases h
          exact ⟨hlength, hanswers, rfl, rfl, rfl⟩
        · rintro ⟨-, hb, hnumber, hchecksum, hcomment⟩
          rw [hanswers] at hb
          have hgcodes := List.map_injective_iff.2 (fun _ _ => Except.ok.inj) hb
          obtain ⟨rfl, rfl⟩ := List.cons.inj hgcodes
          rw [← hnumber, ← hchecksum, ← hcomment]

theorem parseWith_of_sections {e : Error} (h : sections (normalize line) = .error e) :
    parseWith dialect line s = (.error e, s) := by
  rw [parseWith, h]

theorem parseWith_of_tokens {e : Error} (hparts : sections (normalize line) = .ok parts)
    (h : tokens parts.region = .error e) : parseWith dialect line s = (.error e, s) := by
  rw [parseWith, hparts]
  simp only [h]

/-- All gcodes of a block come from the dialect, one call for each token and in
their order, and nothing is handed over behind the first failure. A line without
sections or without tokens fails in the same way for every dialect. -/
theorem parseWith_calls_dialect_in_token_order (line : Text) :
    (∀ parts texts, sections (normalize line) = .ok parts → tokens parts.region = .ok texts →
      ∀ {σ : Type} (dialect : Dialect σ) (s : σ), ∃ calls,
        (∀ log, parseWith dialect.logged line (log, s) =
          ((parseWith dialect line s).1, log ++ calls, (parseWith dialect line s).2)) ∧
        Served dialect s parts texts calls (parseWith dialect line s)) ∧
    ∀ e, (sections (normalize line) = .error e ∨
        ∃ parts, sections (normalize line) = .ok parts ∧ tokens parts.region = .error e) →
      ∀ {σ : Type} (dialect : Dialect σ) (s : σ), parseWith dialect line s = (.error e, s) ∧
        ∀ log, parseWith dialect.logged line (log, s) = (.error e, log, s) := by
  refine ⟨fun parts texts hparts htexts σ dialect s => exists_served dialect hparts htexts,
    fun e hfail σ dialect s => ?_⟩
  rcases hfail with h | ⟨parts, hparts, h⟩
  · exact ⟨parseWith_of_sections _ h, fun _ => parseWith_of_sections _ h⟩
  · exact ⟨parseWith_of_tokens _ hparts h, fun _ => parseWith_of_tokens _ hparts h⟩

/-- The dialect refuses the third token, so it is not told of the fourth, which
could not be read. -/
theorem parseWith_calls_dialect_in_token_order_limited :
    (sections (normalize "n7 g1 x2 y3 z99999999999 *9".toList) =
        .ok ⟨some 7, some 9, none, "G1 X2 Y3 Z99999999999".toList⟩ ∧
      tokens "G1 X2 Y3 Z99999999999".toList =
        .ok ["G1".toList, "X2".toList, "Y3".toList, "Z99999999999".toList] ∧
      Served .limited 2 ⟨some 7, some 9, none, "G1 X2 Y3 Z99999999999".toList⟩
        ["G1".toList, "X2".toList, "Y3".toList, "Z99999999999".toList]
        [⟨71, .int32 1⟩, ⟨88, .int32 2⟩, ⟨89, .int32 3⟩] (.error (.invalidWord 89), 0)) ∧
    sections (normalize "g1 ?".toList) = .ok ⟨none, none, none, "G1 ?".toList⟩ ∧
      tokens "G1 ?".toList = .error (.undefinedSymbols "?".toList) ∧
      parseWith Dialect.limited.logged "g1 ?".toList ([], 2) =
        (.error (.undefinedSymbols "?".toList), [], 2) := by
  have hparts : sections (normalize "n7 g1 x2 y3 z99999999999 *9".toList) =
      .ok ⟨some 7, some 9, none, "G1 X2 Y3 Z99999999999".toList⟩ := by decide +kernel
  have htexts : tokens "G1 X2 Y3 Z99999999999".toList =
      .ok ["G1".toList, "X2".toList, "Y3".toList, "Z99999999999".toList] := by decide +kernel
  have hrun : parseWith Dialect.limited.logged "n7 g1 x2 y3 z99999999999 *9".toList ([], 2) =
      (.error (.invalidWord 89), [⟨71, .int32 1⟩, ⟨88, .int32 2⟩, ⟨89, .int32 3⟩], 0) := by
    decide +kernel
  have hregion : sections (normalize "g1 ?".toList) = .ok ⟨none, none, none, "G1 ?".toList⟩ := by
    decide +kernel
  have hresidue : tokens "G1 ?".toList = .error (.undefinedSymbols "?".toList) := by
    decide +kernel
  obtain ⟨calls, hlog, hserved⟩ :=
    (parseWith_calls_dialect_in_token_order _).1 _ _ hparts htexts .limited 2
  obtain ⟨-, hfail⟩ :=
    (parseWith_calls_dialect_in_token_order _).2 _ (.inr ⟨_, hregion, hresidue⟩) .limited 2
  have heq := (hlog []).symm.trans hrun
  simp only [Prod.mk.injEq, List.nil_append] at heq
  obtain ⟨herror, rfl, hstate⟩ := heq
  rw [← herror, ← hstate]
  exact ⟨⟨hparts, htexts, hserved⟩, hregion, hresidue, hfail []⟩

end Block

end NCBlock
