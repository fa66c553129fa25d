import NCBlock.Document.Basic
import NCBlock.Proofs.Text.Blank

/-!
Documents as lines that are ended one by one, with a last line that is not if
there is anything behind them. Splitting a document gives the lines back, the
ended ones without the carriage return that may stand at their end.
-/

namespace NCBlock.Document

/-- Removes one carriage return from the end of a line. -/
def chomp (t : Text) : Text := if t.getLast? = some '\r' then t.dropLast else t

def joinLines (ls : List Text) : Text := ls.flatMap fun l => l ++ ['\n']

@[simp] theorem joinLines_nil : joinLines [] = [] := rfl

@[simp] theorem joinLines_cons (l : Text) (ls : List Text) :
    joinLines (l :: ls) = l ++ '\n' :: joinLines ls := by
  simp [joinLines]

theorem chomp_cons {c d : Char} {t : Text} : chomp (c :: d :: t) = c :: chomp (d :: t) := by
  simp only [chomp, List.getLast?_cons_cons, List.dropLast_cons_cons]
  split <;> rfl

theorem chomp_of_not_mem {t : Text} (h : '\r' ∉ t) : chomp t = t := by
  rw [chomp, if_neg]
  exact fun hlast => h (List.mem_of_getLast? hlast)

theorem mem_of_mem_chomp {c : Char} {t : Text} (h : c ∈ chomp t) : c ∈ t := by
  rw [chomp] at h
  split at h
  · exact List.dropLast_subset t h
  · exact h

theorem lines_cons_return {t : Text} (h : t.head? = some '\n') : lines ('\r' :: t) = lines t := by
  rw [lines, if_pos ⟨rfl, h⟩]
  decide

theorem lines_cons {c : Char} {t line : Text} {more : List Text} (hc : c ≠ '\n')
    (hreturn : ¬(c = '\r' ∧ t.head? = some '\n')) (h : lines t = line :: more) :
    lines (c :: t) = (c :: line) :: more := by
  rw [lines, if_neg hreturn, h]
  exact hc

theorem lines_append {t : Text} (ht : '\n' ∉ t) (rest : Text) :
    lines (t ++ '\n' :: rest) = chomp t :: lines rest := by
  induction t with
  | nil => rfl
  | cons c t ih =>
      rw [List.mem_cons, not_or] at ht
      have hrest := ih ht.2
      -- a carriage return is dropped only right before the line feed
      cases t with
      | nil =>
          by_cases hc : c = '\r'
          · rw [hc, List.cons_append, lines_cons_return rfl, hrest]
            rfl
          · have hchomp : chomp [c] = [c] := chomp_of_not_mem (by simpa using Ne.symm hc)
            rw [hchomp]
            exact lines_cons (Ne.symm ht.1) (fun hreturn => hc hreturn.1) hrest
      | cons d t =>
          have hd : d ≠ '\n' := fun heq => ht.2 (heq ▸ List.mem_cons_self)
          rw [chomp_cons]
          exact lines_cons (Ne.symm ht.1) (fun hreturn => hd (Option.some.inj hreturn.2)) hrest

theorem lines_of_not_mem {t : Text} (hne : t ≠ []) (ht : '\n' ∉ t) : lines t = [t] := by
  induction t with
  | nil => exact absurd rfl hne
  | cons c t ih =>
      rw [List.mem_cons, not_or] at ht
      have hreturn : ¬(c = '\r' ∧ t.head? = some '\n') :=
        fun h => ht.2 (List.mem_of_mem_head? h.2)
      cases t with
      | nil =>
          rw [lines, if_neg hreturn, lines]
          exact Ne.symm ht.1
      | cons d t => exact lines_cons (Ne.symm ht.1) hreturn (ih (List.cons_ne_nil d t) ht.2)

/-! ### The lines of a document -/

/-- A line feed ends a line, and a carriage return right before it is no part of
the line. What stands behind the last line feed is a line as it is. -/
inductive Lined : Text → List Text → Prop
  | nil : Lined [] []
  | last {t : Text} : t ≠ [] → '\n' ∉ t → Lined t [t]
  | ended {t rest : Text} {ls : List Text} : '\n' ∉ t → Lined rest ls →
      Lined (t ++ '\n' :: rest) (chomp t :: ls)

theorem Lined.lines_eq {d : Text} {ls : List Text} (h : Lined d ls) : lines d = ls := by
  induction h with
  | nil => rfl
  | last hne ht => exact lines_of_not_mem hne ht
  | ended ht _ ih => rw [lines_append ht, ih]

theorem Lined.joinLines_append {ts ls : List Text} {rest : Text} (h : Lined rest ls)
    (hts : ∀ t ∈ ts, '\n' ∉ t) : Lined (joinLines ts ++ rest) (ts.map chomp ++ ls) := by
  induction ts with
  | nil => exact h
  | cons t ts ih =>
      obtain ⟨ht, hts⟩ := List.forall_mem_cons.1 hts
      rw [joinLines_cons, List.append_assoc, List.cons_append]
      exact .ended ht (ih hts)

/-- A document is lines that are ended, and a rest without line feed. -/
theorem exists_joinLines_append (d : Text) : ∃ ts rest,
    (∀ t ∈ ts, '\n' ∉ t) ∧ '\n' ∉ rest ∧ d = joinLines ts ++ rest := by
  induction d with
  | nil => exact ⟨[], [], fun t ht => absurd ht List.not_mem_nil, List.not_mem_nil, rfl⟩
  | cons c d ih =>
      obtain ⟨ts, rest, hts, hrest, rfl⟩ := ih
      by_cases hc : c = '\n'
      · refine ⟨[] :: ts, rest, List.forall_mem_cons.2 ⟨List.not_mem_nil, hts⟩, hrest, ?_⟩
        rw [joinLines_cons, hc, List.nil_append, List.cons_append]
      · -- the character goes to the front of the first line
        have hcons {t : Text} (ht : '\n' ∉ t) : '\n' ∉ c :: t := by
          rw [List.mem_cons, not_or]
          exact ⟨Ne.symm hc, ht⟩
        cases ts with
        | nil => exact ⟨[], c :: rest, hts, hcons hrest, rfl⟩
        | cons t ts =>
            obtain ⟨ht, hts⟩ := List.forall_mem_cons.1 hts
            refine ⟨(c :: t) :: ts, rest, List.forall_mem_cons.2 ⟨hcons ht, hts⟩, hrest, ?_⟩
            rw [joinLines_cons, joinLines_cons, List.cons_append, List.cons_append]

theorem lined_lines (d : Text) : Lined d (lines d) := by
  obtain ⟨ts, rest, hts, hrest, rfl⟩ := exists_joinLines_append d
  have hlast : ∃ ls, Lined rest ls := by
    by_cases hne : rest = []
    · exact ⟨[], hne ▸ .nil⟩
    · exact ⟨[rest], .last hne hrest⟩
  obtain ⟨ls, hls⟩ := hlast
  have hlined := hls.joinLines_append hts
  rw [hlined.lines_eq]
  exact hlined

/-- A document is split as the grammar says, and in no other way. -/
theorem lines_eq_iff {d : Text} {ls : List Text} : lines d = ls ↔ Lined d ls :=
  ⟨fun h => h ▸ lined_lines d, Lined.lines_eq⟩

theorem Lined.not_mem {d l : Text} {ls : List Text} (h : Lined d ls) (hl : l ∈ ls) :
    '\n' ∉ l := by
  induction h with
  | nil => cases hl
  | last _ ht => exact List.mem_singleton.1 hl ▸ ht
  | ended ht _ ih =>
      rcases List.mem_cons.1 hl with rfl | hl
      · exact fun hmem => ht (mem_of_mem_chomp hmem)
      · exact ih hl

theorem not_mem_of_mem_lines {d l : Text} (h : l ∈ lines d) : '\n' ∉ l :=
  (lined_lines d).not_mem h

theorem lines_joinLines_append {ls : List Text} (h : ∀ l ∈ ls, '\n' ∉ l) (rest : Text) :
    lines (joinLines ls ++ rest) = ls.map chomp ++ lines rest :=
  ((lined_lines rest).joinLines_append h).lines_eq

theorem lines_joinLines {ls : List Text} (h : ∀ l ∈ ls, '\n' ∉ l) :
    lines (joinLines ls) = ls.map chomp := by
  simpa [lines] using lines_joinLines_append h []

/-! ### Lines that hold no block -/

theorem trim_chomp (t : Text) : Text.trim (chomp t) = Text.trim t := by
  rw [chomp]
  split
  next hlast =>
    obtain ⟨before, rfl⟩ := List.getLast?_eq_some_iff.1 hlast
    have hblank : Text.AllBlank ['\r'] := Text.allBlank_singleton.2 (by decide)
    rw [List.dropLast_concat, Text.trim_append_of_blank hblank]
  next => rfl

theorem isPassthrough_chomp (t : Text) : isPassthrough (chomp t) = isPassthrough t := by
  rw [isPassthrough, isPassthrough, trim_chomp]

end NCBlock.Document
