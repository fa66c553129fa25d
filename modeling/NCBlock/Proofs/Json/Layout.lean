import NCBlock.Proofs.Json.Boundary
import NCBlock.Proofs.Text.Blank
import NCBlock.Proofs.Text.Class

/-!
The two layouts of a JSON value. They differ in blanks outside of strings and in
nothing else, so a value is told by its text on several lines as well.
-/

namespace NCBlock.Json

open Text

/-! ### Blanks outside of strings -/

/-- Where a character stands in a text. -/
inductive Place
  | outside
  | inside
  | escaped

def Place.next : Place → Char → Place
  | .outside, '"' => .inside
  | .outside, _ => .outside
  | .inside, '"' => .outside
  | .inside, '\\' => .escaped
  | .inside, _ => .inside
  | .escaped, _ => .inside

theorem Place.next_inside {c : Char} (hquote : c ≠ '"') (hbackslash : c ≠ '\\') :
    Place.inside.next c = .inside := by
  unfold next
  split <;> simp_all

theorem Place.next_outside {c : Char} (hquote : c ≠ '"') : Place.outside.next c = .outside := by
  unfold next
  split <;> simp_all

/-- Leaves the blanks outside of strings out. -/
def solid : Place → Text → Text
  | _, [] => []
  | .outside, c :: rest =>
    if isBlank c then solid .outside rest else c :: solid (Place.outside.next c) rest
  | p, c :: rest => c :: solid (p.next c) rest

theorem solid_inside {c : Char} (hquote : c ≠ '"') (hbackslash : c ≠ '\\') (rest : Text) :
    solid .inside (c :: rest) = c :: solid .inside rest := by
  rw [solid, Place.next_inside hquote hbackslash]
  rintro ⟨⟩

theorem solid_outside {c : Char} (hblank : isBlank c = false) (hquote : c ≠ '"') (rest : Text) :
    solid .outside (c :: rest) = c :: solid .outside rest := by
  rw [solid, if_neg (by simp [hblank]), Place.next_outside hquote]

theorem solid_blank {w : Text} (hw : w.AllBlank) (rest : Text) :
    solid .outside (w ++ rest) = solid .outside rest := by
  induction w with
  | nil => rfl
  | cons c w ih =>
      rw [allBlank_cons] at hw
      rw [List.cons_append, solid, if_pos hw.1, ih hw.2]

/-! ### Strings -/

theorem digitChar_ne : ∀ n < 16, n.digitChar ≠ '"' ∧ n.digitChar ≠ '\\' := by decide

theorem solid_escape (c : Char) (rest : Text) :
    solid .inside (escape c ++ rest) = escape c ++ solid .inside rest := by
  unfold escape
  split_ifs with hquote hbackslash _ _ _ _ _ hcontrol
  any_goals rfl
  · have hhigh := digitChar_ne (c.toNat / 16) (by omega)
    have hlow := digitChar_ne (c.toNat % 16) (by omega)
    show '\\' :: 'u' :: solid .inside ('0' :: '0' :: _ :: _ :: rest) = _
    rw [solid_inside (by decide) (by decide), solid_inside (by decide) (by decide),
      solid_inside hhigh.1 hhigh.2, solid_inside hlow.1 hlow.2]
    rfl
  · exact solid_inside hquote hbackslash rest

theorem solid_quoted (t rest : Text) :
    solid .outside (quoted t ++ rest) = quoted t ++ solid .outside rest := by
  have hbody : solid .inside (t.flatMap escape ++ '"' :: rest) =
      t.flatMap escape ++ '"' :: solid .outside rest := by
    induction t with
    | nil => rfl
    | cons c t ih =>
        rw [List.flatMap_cons, List.append_assoc, solid_escape, ih, List.append_assoc]
  have hopen : solid .outside ('"' :: (t.flatMap escape ++ '"' :: rest)) =
      '"' :: solid .inside (t.flatMap escape ++ '"' :: rest) := rfl
  simp only [quoted, List.cons_append, List.append_assoc, List.nil_append]
  rw [hopen, hbody]

/-! ### Values -/

theorem not_isBlank_of_isNumeric {c : Char} (h : isNumeric c = true) :
    isBlank c = false ∧ c ≠ '"' := by
  rw [isNumeric, Bool.or_eq_true] at h
  rcases h with h | h
  · refine ⟨not_isBlank_of_isDecimalDigit (isDecimalDigit_of_isDigit h), ?_⟩
    rintro rfl
    cases h
  · have hothers : ("+-.e".toList.all fun c => !isBlank c && c != '"') = true := by decide
    simpa using List.all_eq_true.1 hothers c (List.contains_iff_mem.1 h)

theorem solid_numeric {t : Text} (ht : t.IsNumeric) (rest : Text) :
    solid .outside (t ++ rest) = t ++ solid .outside rest := by
  obtain ⟨-, hall⟩ := ht
  induction t with
  | nil => rfl
  | cons c t ih =>
      rw [List.forall_mem_cons] at hall
      obtain ⟨hblank, hquote⟩ := not_isBlank_of_isNumeric hall.1
      rw [List.cons_append, solid_outside hblank hquote, ih hall.2, List.cons_append]

theorem allBlank_newline (level : Nat) : (newline level).AllBlank := by
  intro c hc
  rcases List.mem_cons.1 hc with rfl | hc
  · rfl
  · rw [List.eq_of_mem_replicate hc]
    rfl

variable {j k : Json} {level : Nat} {rest : Text}

theorem solid_prettyItems {items : List Json}
    (hitems : ∀ item ∈ items, ∀ level rest,
      solid .outside (item.pretty level ++ rest) = item.compact ++ solid .outside rest) :
    solid .outside (prettyItems level items ++ rest) =
      compactItems items ++ solid .outside rest := by
  induction items with
  | nil => rfl
  | cons item items ih =>
      rw [List.forall_mem_cons] at hitems
      cases items with
      | nil =>
          rw [prettyItems, compactItems, List.append_assoc, solid_blank (allBlank_newline level),
            hitems.1]
      | cons next others =>
          simp only [prettyItems, compactItems, List.append_assoc, List.cons_append]
          rw [solid_blank (allBlank_newline level), hitems.1,
            solid_outside rfl (by decide), ih hitems.2]

theorem solid_prettyMembers {members : List (Text × Json)}
    (hmembers : ∀ m ∈ members, ∀ level rest,
      solid .outside (m.2.pretty level ++ rest) = m.2.compact ++ solid .outside rest) :
    solid .outside (prettyMembers level members ++ rest) =
      compactMembers members ++ solid .outside rest := by
  have hcolon (t : Text) : solid .outside (": ".toList ++ t) = ':' :: solid .outside t := rfl
  induction members with
  | nil => rfl
  | cons m members ih =>
      rw [List.forall_mem_cons] at hmembers
      cases members with
      | nil =>
          simp only [prettyMembers, compactMembers, List.append_assoc, List.cons_append]
          rw [solid_blank (allBlank_newline level), solid_quoted, hcolon, hmembers.1]
      | cons next others =>
          simp only [prettyMembers, compactMembers, List.append_assoc, List.cons_append]
          rw [solid_blank (allBlank_newline level), solid_quoted, hcolon, hmembers.1,
            solid_outside rfl (by decide), ih hmembers.2]

/-- Without its blanks outside of strings the long layout is the short one. -/
theorem Proper.solid_pretty (hj : j.Proper) : ∀ level rest,
    solid .outside (j.pretty level ++ rest) = j.compact ++ solid .outside rest := by
  induction hj with
  | null => exact fun _ _ => rfl
  | number ht => exact fun _ rest => solid_numeric ht rest
  | string t => exact fun _ rest => solid_quoted t rest
  | @array items _ ih =>
      intro level rest
      cases items with
      | nil => rfl
      | cons item others =>
          simp only [pretty, compact, List.append_assoc, List.cons_append, List.nil_append]
          rw [solid_outside rfl (by decide), solid_prettyItems ih,
            solid_blank (allBlank_newline level), solid_outside rfl (by decide)]
  | @object members _ ih =>
      intro level rest
      cases members with
      | nil => rfl
      | cons m others =>
          simp only [pretty, compact, List.append_assoc, List.cons_append, List.nil_append]
          rw [solid_outside rfl (by decide), solid_prettyMembers ih,
            solid_blank (allBlank_newline level), solid_outside rfl (by decide)]

theorem Proper.pretty_inj (hj : j.Proper) (hk : k.Proper) (h : j.pretty level = k.pretty level) :
    j = k := by
  have hsolid (j : Json) (hj : j.Proper) : solid .outside (j.pretty level) = j.compact := by
    simpa [solid] using hj.solid_pretty level []
  refine hj.compact_inj hk ?_
  rw [← hsolid j hj, h, hsolid k hk]

end NCBlock.Json
