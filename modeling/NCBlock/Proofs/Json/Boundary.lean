import NCBlock.Json
import NCBlock.Proofs.Number.Notation

/-!
JSON on one line. The text of a value tells the value and the place where it
ends, whatever stands behind it, so two values with the same text are equal.
-/

namespace NCBlock.Json

open Text

/-! ### Strings -/

def hexValue (c : Char) : Nat := if c.isDigit then c.toNat - 0x30 else c.toNat - 0x57

/-- Reads one character of a string. There is none before the closing quote. -/
def unescape : Text → Option (Char × Text)
  | [] => none
  | '"' :: _ => none
  | '\\' :: 'n' :: rest => some ('\n', rest)
  | '\\' :: 'r' :: rest => some ('\r', rest)
  | '\\' :: 't' :: rest => some ('\t', rest)
  | '\\' :: 'b' :: rest => some ('\x08', rest)
  | '\\' :: 'f' :: rest => some ('\x0c', rest)
  | '\\' :: 'u' :: '0' :: '0' :: high :: low :: rest =>
    some (Char.ofNat (16 * hexValue high + hexValue low), rest)
  | '\\' :: c :: rest => some (c, rest)
  | c :: rest => some (c, rest)

theorem hexValue_digitChar : ∀ n < 16, hexValue n.digitChar = n := by decide

theorem unescape_escape (c : Char) (rest : Text) :
    unescape (escape c ++ rest) = some (c, rest) := by
  unfold escape
  split_ifs with hquote hbackslash _ _ _ _ _ hcontrol
  any_goals
    subst c
    rfl
  · have hhigh := hexValue_digitChar (c.toNat / 16) (by omega)
    have hlow := hexValue_digitChar (c.toNat % 16) (by omega)
    show some (Char.ofNat _, rest) = _
    rw [hhigh, hlow, Nat.div_add_mod, Char.ofNat_toNat]
  · rw [List.singleton_append, unescape.eq_def]
    split <;> simp_all

theorem escapes_append_inj {t u r s : Text}
    (h : t.flatMap escape ++ '"' :: r = u.flatMap escape ++ '"' :: s) : t = u ∧ r = s := by
  have hread := congrArg unescape h
  induction t generalizing u with
  | nil =>
      cases u with
      | nil => exact ⟨rfl, (List.cons.inj h).2⟩
      | cons d u =>
          rw [List.flatMap_cons, List.append_assoc, unescape_escape] at hread
          cases hread
  | cons c t ih =>
      rw [List.flatMap_cons, List.append_assoc, unescape_escape] at hread
      cases u with
      | nil => cases hread
      | cons d u =>
          rw [List.flatMap_cons, List.append_assoc, unescape_escape, Option.some.injEq,
            Prod.mk.injEq] at hread
          obtain ⟨rfl, hrest⟩ := hread
          obtain ⟨rfl, hend⟩ := ih hrest (congrArg unescape hrest)
          exact ⟨rfl, hend⟩

theorem quoted_append_inj {t u r s : Text} (h : quoted t ++ r = quoted u ++ s) :
    t = u ∧ r = s := by
  simp only [quoted, List.cons_append, List.append_assoc, List.nil_append, List.cons.injEq,
    true_and] at h
  exact escapes_append_inj h

/-! ### Sequences -/

section Sequence

variable {α : Type} {text : α → Text} {P : α → Prop} {x : α} {xs ys : List α} {last : Char}
  {r s : Text}

/-- Among the values with a property, one is told by any text that begins with its own, and with
it the rest of this text. -/
def Told (text : α → Text) (P : α → Prop) (x : α) : Prop :=
  ∀ y, P y → ∀ r s, NumberEnds r → NumberEnds s → text x ++ r = text y ++ s → x = y ∧ r = s

theorem numberEnds_cons {c : Char} {t : Text} (hc : isNumeric c = false) : NumberEnds (c :: t) := by
  intro d hd
  cases hd
  exact hc

theorem numberEnds_others (hlast : isNumeric last = false) :
    NumberEnds ((xs.flatMap fun x => ',' :: text x) ++ last :: r) := by
  cases xs with
  | nil => exact numberEnds_cons hlast
  | cons x xs => exact numberEnds_cons rfl

theorem others_append_inj (hlast : isNumeric last = false) (hcomma : last ≠ ',')
    (hxs : ∀ x ∈ xs, Told text P x) (hys : ∀ y ∈ ys, P y)
    (h : (xs.flatMap fun x => ',' :: text x) ++ last :: r =
      (ys.flatMap fun y => ',' :: text y) ++ last :: s) : xs = ys ∧ r = s := by
  induction xs generalizing ys with
  | nil =>
      cases ys with
      | nil => exact ⟨rfl, (List.cons.inj h).2⟩
      | cons y ys => exact absurd (List.cons.inj h).1 hcomma
  | cons x xs ih =>
      cases ys with
      | nil => exact absurd (List.cons.inj h).1.symm hcomma
      | cons y ys =>
          rw [List.forall_mem_cons] at hxs hys
          simp only [List.flatMap_cons, List.cons_append, List.append_assoc, List.cons.injEq,
            true_and] at h
          obtain ⟨rfl, hothers⟩ := hxs.1 y hys.1 _ _ (numberEnds_others hlast)
            (numberEnds_others hlast) h
          obtain ⟨rfl, hend⟩ := ih hxs.2 hys.2 hothers
          exact ⟨rfl, hend⟩

/-- The items between two brackets, with commas between them. -/
def sequence (text : α → Text) : List α → Text
  | [] => []
  | x :: xs => text x ++ xs.flatMap fun x => ',' :: text x

theorem sequence_append_inj (hlast : isNumeric last = false) (hcomma : last ≠ ',')
    (hstart : ∀ x, P x → ∃ c t, text x = c :: t ∧ c ≠ last) (hxs : ∀ x ∈ xs, P x)
    (htold : ∀ x ∈ xs, Told text P x) (hys : ∀ y ∈ ys, P y)
    (h : sequence text xs ++ last :: r = sequence text ys ++ last :: s) : xs = ys ∧ r = s := by
  have hempty {x : α} {t u : Text} (hx : P x) : text x ++ t ≠ last :: u := by
    obtain ⟨c, v, heq, hc⟩ := hstart x hx
    rw [heq]
    exact fun h => hc (List.cons.inj h).1
  cases xs with
  | nil =>
      cases ys with
      | nil => exact ⟨rfl, (List.cons.inj h).2⟩
      | cons y ys =>
          rw [sequence, sequence, List.append_assoc] at h
          exact absurd h.symm (hempty (hys y List.mem_cons_self))
  | cons x xs =>
      cases ys with
      | nil =>
          rw [sequence, sequence, List.append_assoc] at h
          exact absurd h (hempty (hxs x List.mem_cons_self))
      | cons y ys =>
          rw [List.forall_mem_cons] at htold hys
          rw [sequence, sequence, List.append_assoc, List.append_assoc] at h
          obtain ⟨rfl, hothers⟩ := htold.1 y hys.1 _ _ (numberEnds_others hlast)
            (numberEnds_others hlast) h
          obtain ⟨rfl, hend⟩ := others_append_inj hlast hcomma htold.2 hys.2 hothers
          exact ⟨rfl, hend⟩

end Sequence

/-! ### Values -/

def memberText (m : Text × Json) : Text := quoted m.1 ++ ':' :: m.2.compact

theorem compactItems_eq (items : List Json) : compactItems items = sequence compact items := by
  induction items with
  | nil => rfl
  | cons item items ih =>
      cases items with
      | nil => rw [compactItems, sequence, List.flatMap_nil, List.append_nil]
      | cons next rest => rw [compactItems, ih, sequence, sequence, List.flatMap_cons,
          List.cons_append]

theorem compactMembers_eq (members : List (Text × Json)) :
    compactMembers members = sequence memberText members := by
  induction members with
  | nil => rfl
  | cons m members ih =>
      cases members with
      | nil => rw [compactMembers, sequence, List.flatMap_nil, List.append_nil, memberText]
      | cons next rest =>
          rw [compactMembers, ih, sequence, sequence, List.flatMap_cons]
          simp only [memberText, List.append_assoc, List.cons_append]

/-- Every number in a value has the characters of one. -/
inductive Proper : Json → Prop
  | null : Proper .null
  | number {t : Text} : t.IsNumeric → Proper (.number t)
  | string (t : Text) : Proper (.string t)
  | array {items : List Json} : (∀ item ∈ items, Proper item) → Proper (.array items)
  | object {members : List (Text × Json)} : (∀ m ∈ members, Proper m.2) → Proper (.object members)

inductive Shape
  | null
  | number
  | string
  | array
  | object

def shape : Json → Shape
  | .null => .null
  | .number _ => .number
  | .string _ => .string
  | .array _ => .array
  | .object _ => .object

/-- The values that begin with a character. -/
def Shape.ofChar? (c : Char) : Option Shape :=
  if isNumeric c then some .number
  else if c = 'n' then some .null
  else if c = '"' then some .string
  else if c = '[' then some .array
  else if c = '{' then some .object
  else none

variable {j k : Json}

theorem Proper.exists_cons (h : j.Proper) :
    ∃ c t, j.compact = c :: t ∧ Shape.ofChar? c = some j.shape := by
  cases h with
  | null => exact ⟨'n', "ull".toList, rfl, rfl⟩
  | number ht =>
      obtain ⟨c, t, rfl⟩ := List.exists_cons_of_ne_nil ht.1
      exact ⟨c, t, rfl, if_pos (ht.2 c List.mem_cons_self)⟩
  | string t => exact ⟨'"', _, rfl, rfl⟩
  | array => exact ⟨'[', _, rfl, rfl⟩
  | object => exact ⟨'{', _, rfl, rfl⟩

theorem Proper.shape_eq {r s : Text} (hj : j.Proper) (hk : k.Proper)
    (h : j.compact ++ r = k.compact ++ s) : j.shape = k.shape := by
  obtain ⟨c, t, hjtext, hc⟩ := hj.exists_cons
  obtain ⟨d, u, hktext, hd⟩ := hk.exists_cons
  rw [hjtext, hktext, List.cons_append, List.cons_append, List.cons.injEq] at h
  rw [h.1, hd] at hc
  exact (Option.some.inj hc).symm

theorem Proper.ne_of_ofChar? {last : Char} (hlast : Shape.ofChar? last = none) (h : j.Proper) :
    ∃ c t, j.compact = c :: t ∧ c ≠ last := by
  obtain ⟨c, t, htext, hc⟩ := h.exists_cons
  refine ⟨c, t, htext, ?_⟩
  rintro rfl
  rw [hlast] at hc
  cases hc

theorem told_memberText {m : Text × Json} (h : Told compact Proper m.2) :
    Told memberText (fun m => m.2.Proper) m := by
  intro n hn r s hr hs heq
  simp only [memberText, List.append_assoc, List.cons_append] at heq
  obtain ⟨hname, hvalue⟩ := quoted_append_inj heq
  obtain ⟨hvalue, hend⟩ := h n.2 hn r s hr hs (List.cons.inj hvalue).2
  exact ⟨Prod.ext hname hvalue, hend⟩

/-- A value is told by any text that begins with its own. -/
theorem Proper.told (hj : j.Proper) : Told compact Proper j := by
  induction hj with
  | null =>
      intro k hk r s hr hs h
      have hshape := Proper.null.shape_eq hk h
      cases hk with
      | null => exact ⟨rfl, List.append_cancel_left h⟩
      | _ => cases hshape
  | number ht =>
      intro k hk r s hr hs h
      have hshape := (Proper.number ht).shape_eq hk h
      cases hk with
      | number hu =>
          obtain ⟨rfl, hend⟩ := ht.append_inj hu hr hs h
          exact ⟨rfl, hend⟩
      | _ => cases hshape
  | string t =>
      intro k hk r s hr hs h
      have hshape := (Proper.string t).shape_eq hk h
      cases hk with
      | string u =>
          obtain ⟨rfl, hend⟩ := quoted_append_inj h
          exact ⟨rfl, hend⟩
      | _ => cases hshape
  | array hitems ih =>
      intro k hk r s hr hs h
      have hshape := (Proper.array hitems).shape_eq hk h
      cases hk with
      | array hitems' =>
          simp only [compact, compactItems_eq, List.cons_append, List.append_assoc,
            List.nil_append, List.cons.injEq, true_and] at h
          obtain ⟨rfl, hend⟩ := sequence_append_inj rfl (by decide)
            (fun _ => Proper.ne_of_ofChar? rfl) hitems ih hitems' h
          exact ⟨rfl, hend⟩
      | _ => cases hshape
  | object hmembers ih =>
      intro k hk r s hr hs h
      have hshape := (Proper.object hmembers).shape_eq hk h
      cases hk with
      | object hmembers' =>
          simp only [compact, compactMembers_eq, List.cons_append, List.append_assoc,
            List.nil_append, List.cons.injEq, true_and] at h
          obtain ⟨rfl, hend⟩ := sequence_append_inj rfl (by decide)
            (fun m _ => ⟨'"', _, rfl, by decide⟩) hmembers
            (fun m hm => told_memberText (ih m hm)) hmembers' h
          exact ⟨rfl, hend⟩
      | _ => cases hshape

theorem Proper.compact_inj (hj : j.Proper) (hk : k.Proper) (h : j.compact = k.compact) : j = k := by
  have hend : NumberEnds [] := fun c hc => by cases hc
  exact (hj.told k hk [] [] hend hend (by rw [h])).1

end NCBlock.Json
