import Mathlib.Data.List.Chain
import NCBlock.Text.Basic

/-!
Blanks around and inside a text. A text is trimmed when neither of its ends
is a blank, and loose when no two blanks stand side by side. Trimming at
either end splits a text into a run of blanks and what is kept.
-/

namespace NCBlock.Text

def AllBlank (t : Text) : Prop := ∀ c ∈ t, isBlank c = true

def SolidStart (t : Text) : Prop := ∀ c ∈ t.head?, isBlank c = false

def SolidEnd (t : Text) : Prop := ∀ c ∈ t.getLast?, isBlank c = false

structure Trimmed (t : Text) : Prop where
  start : SolidStart t
  stop : SolidEnd t

/-- No two blanks stand side by side. -/
def Loose (t : Text) : Prop := t.IsChain fun c d => isBlank c = false ∨ isBlank d = false

@[simp] theorem allBlank_nil : AllBlank [] := by simp [AllBlank]

@[simp] theorem allBlank_cons {c : Char} {t : Text} :
    AllBlank (c :: t) ↔ isBlank c = true ∧ AllBlank t := by
  simp [AllBlank]

theorem allBlank_singleton {c : Char} : AllBlank [c] ↔ isBlank c = true := by simp [AllBlank]

@[simp] theorem allBlank_append {t u : Text} :
    AllBlank (t ++ u) ↔ AllBlank t ∧ AllBlank u := by
  simp [AllBlank, or_imp, forall_and]

@[simp] theorem solidStart_nil : SolidStart [] := by simp [SolidStart]

@[simp] theorem solidStart_cons {c : Char} {t : Text} :
    SolidStart (c :: t) ↔ isBlank c = false := by
  simp [SolidStart]

@[simp] theorem solidEnd_nil : SolidEnd [] := by simp [SolidEnd]

@[simp] theorem solidEnd_concat {t : Text} {c : Char} :
    SolidEnd (t ++ [c]) ↔ isBlank c = false := by
  simp [SolidEnd]

theorem SolidStart.append {t u : Text} (ht : SolidStart t) (hne : t ≠ []) :
    SolidStart (t ++ u) := by
  cases t with
  | nil => exact absurd rfl hne
  | cons c t => simpa using ht

theorem SolidStart.left {t u : Text} (h : SolidStart (t ++ u)) : SolidStart t := by
  cases t with
  | nil => exact solidStart_nil
  | cons c t => simpa using h

theorem SolidEnd.right {t u : Text} (h : SolidEnd (t ++ u)) : SolidEnd u := by
  rcases List.eq_nil_or_concat' u with rfl | ⟨u, c, rfl⟩
  · exact solidEnd_nil
  · rw [← List.append_assoc] at h
    exact solidEnd_concat.2 (solidEnd_concat.1 h)

theorem SolidEnd.append {t u : Text} (hu : SolidEnd u) (hne : u ≠ []) :
    SolidEnd (t ++ u) := by
  rcases List.eq_nil_or_concat' u with rfl | ⟨u, c, rfl⟩
  · exact absurd rfl hne
  · rw [← List.append_assoc]
    exact solidEnd_concat.2 (solidEnd_concat.1 hu)

theorem AllBlank.eq_nil_of_solidStart {w : Text} (hw : AllBlank w) (h : SolidStart w) :
    w = [] := by
  cases w with
  | nil => rfl
  | cons c w => exact absurd ((hw c List.mem_cons_self).symm.trans (solidStart_cons.1 h)) nofun

theorem AllBlank.eq_nil_of_solidEnd {w : Text} (hw : AllBlank w) (h : SolidEnd w) : w = [] := by
  rcases List.eq_nil_or_concat' w with rfl | ⟨w, c, rfl⟩
  · rfl
  · exact absurd ((hw c List.mem_concat_self).symm.trans (solidEnd_concat.1 h)) nofun

/-- A text that holds no blank has solid ends. -/
theorem trimmed_of_forall {t : Text} (h : ∀ c ∈ t, isBlank c = false) : Trimmed t :=
  ⟨fun c hc => h c (List.mem_of_mem_head? hc), fun c hc => h c (List.mem_of_getLast? hc)⟩

theorem loose_of_forall {t : Text} (h : ∀ c ∈ t, isBlank c = false) : Loose t := by
  induction t with
  | nil => exact .nil
  | cons c t ih =>
      have ht : Loose t := ih fun d hd => h d (List.mem_cons_of_mem c hd)
      exact List.isChain_cons.2 ⟨fun _ _ => .inl (h c List.mem_cons_self), ht⟩

/-- Loose texts may be joined where one of the two ends is solid. -/
theorem Loose.append {t u : Text} (ht : Loose t) (hu : Loose u)
    (h : SolidEnd t ∨ SolidStart u) : Loose (t ++ u) := by
  refine List.isChain_append.2 ⟨ht, hu, ?_⟩
  intro c hc d hd
  exact h.imp (· c hc) (· d hd)

theorem Loose.of_isInfix {t u : Text} (h : Loose u) (htu : t <:+: u) : Loose t :=
  List.IsChain.infix (h) htu

theorem Loose.right {t u : Text} (h : Loose (t ++ u)) : Loose u := (List.isChain_append.1 h).2.1

/-! ### The start of a text -/

theorem trimStart_append_of_blank {w : Text} (hw : AllBlank w) (t : Text) :
    trimStart (w ++ t) = trimStart t :=
  List.dropWhile_append_of_pos hw

theorem trimStart_of_blank {w : Text} (hw : AllBlank w) : trimStart w = [] := by
  simpa using trimStart_append_of_blank hw []

theorem trimStart_of_solid {t : Text} (ht : SolidStart t) : trimStart t = t := by
  cases t with
  | nil => rfl
  | cons c t => exact trimStart_cons_of_not_blank (by simpa using ht) t

/-- Where the blanks at the start of a text end is told by the text. -/
theorem blank_append_inj {w w' t t' : Text} (hw : AllBlank w) (hw' : AllBlank w')
    (ht : SolidStart t) (ht' : SolidStart t') (h : w ++ t = w' ++ t') : w = w' ∧ t = t' := by
  have htrim := congrArg trimStart h
  rw [trimStart_append_of_blank hw, trimStart_append_of_blank hw', trimStart_of_solid ht,
    trimStart_of_solid ht'] at htrim
  cases htrim
  exact ⟨List.append_cancel_right h, rfl⟩

theorem solidStart_trimStart (t : Text) : SolidStart (trimStart t) := by
  intro c hc
  have hhead := List.head?_dropWhile_not isBlank t
  rw [trimStart] at hc
  rw [Option.mem_def.1 hc] at hhead
  simpa using hhead

/-- The blanks that `trimStart` removes stand before what it keeps. -/
theorem exists_append_trimStart (t : Text) : ∃ w, AllBlank w ∧ w ++ trimStart t = t := by
  refine ⟨t.takeWhile isBlank, ?_, List.takeWhile_append_dropWhile⟩
  exact List.all_eq_true.1 List.all_takeWhile

theorem trimStart_append_of_solid {u : Text} (hu : SolidStart u) (t : Text) :
    trimStart (t ++ u) = trimStart t ++ u := by
  obtain ⟨w, hw, heq⟩ := exists_append_trimStart t
  have hstart : SolidStart (trimStart t ++ u) := by
    by_cases hnil : trimStart t = []
    · rwa [hnil]
    · exact (solidStart_trimStart t).append hnil
  calc trimStart (t ++ u) = trimStart (w ++ (trimStart t ++ u)) := by
        rw [← List.append_assoc, heq]
    _ = trimStart (trimStart t ++ u) := trimStart_append_of_blank hw _
    _ = trimStart t ++ u := trimStart_of_solid hstart

/-! ### The end of a text -/

theorem trimEnd_eq_reverse (t : Text) : trimEnd t = (trimStart t.reverse).reverse := by
  induction t with
  | nil => rfl
  | cons c t ih =>
      rw [List.reverse_cons, trimStart, List.dropWhile_append, ← trimStart, trimEnd, ih]
      -- both sides keep `c` when something solid stands behind it
      cases hkept : trimStart t.reverse with
      | nil => cases hc : isBlank c <;> simp [hc]
      | cons d kept =>
          cases hrev : kept.reverse ++ [d] with
          | nil => simp at hrev
          | cons e more => simp [hrev]

theorem solidEnd_iff_reverse {t : Text} : SolidEnd t ↔ SolidStart t.reverse := by
  simp [SolidEnd, SolidStart]

theorem trimEnd_append_of_blank {w : Text} (hw : AllBlank w) (t : Text) :
    trimEnd (t ++ w) = trimEnd t := by
  have hrev : AllBlank w.reverse := fun c hc => hw c (List.mem_reverse.1 hc)
  rw [trimEnd_eq_reverse, List.reverse_append, trimStart_append_of_blank hrev,
    ← trimEnd_eq_reverse]

theorem trimEnd_of_solid {t : Text} (ht : SolidEnd t) : trimEnd t = t := by
  rw [trimEnd_eq_reverse, trimStart_of_solid (solidEnd_iff_reverse.1 ht), List.reverse_reverse]

theorem solidEnd_trimEnd (t : Text) : SolidEnd (trimEnd t) := by
  rw [solidEnd_iff_reverse, trimEnd_eq_reverse, List.reverse_reverse]
  exact solidStart_trimStart _

/-- The blanks that `trimEnd` removes stand behind what it keeps. -/
theorem exists_trimEnd_append (t : Text) : ∃ w, AllBlank w ∧ trimEnd t ++ w = t := by
  obtain ⟨w, hw, heq⟩ := exists_append_trimStart t.reverse
  refine ⟨w.reverse, fun c hc => hw c (List.mem_reverse.1 hc), ?_⟩
  rw [trimEnd_eq_reverse, ← List.reverse_append, heq, List.reverse_reverse]

theorem trimEnd_append_of_solid {t : Text} (ht : SolidEnd t) (u : Text) :
    trimEnd (t ++ u) = t ++ trimEnd u := by
  obtain ⟨w, hw, heq⟩ := exists_trimEnd_append u
  have hstop : SolidEnd (t ++ trimEnd u) := by
    by_cases hnil : trimEnd u = []
    · rwa [hnil, List.append_nil]
    · exact (solidEnd_trimEnd u).append hnil
  calc trimEnd (t ++ u) = trimEnd (t ++ trimEnd u ++ w) := by rw [List.append_assoc, heq]
    _ = trimEnd (t ++ trimEnd u) := trimEnd_append_of_blank hw _
    _ = t ++ trimEnd u := trimEnd_of_solid hstop

theorem SolidStart.trimEnd {t : Text} (ht : SolidStart t) : SolidStart (trimEnd t) := by
  obtain ⟨w, -, heq⟩ := exists_trimEnd_append t
  rw [← heq] at ht
  cases hkept : Text.trimEnd t with
  | nil => exact solidStart_nil
  | cons c kept =>
      rw [hkept] at ht
      simpa using ht

theorem SolidEnd.trimStart {t : Text} (ht : SolidEnd t) : SolidEnd (trimStart t) := by
  obtain ⟨w, -, heq⟩ := exists_append_trimStart t
  by_cases hnil : Text.trimStart t = []
  · rw [hnil]
    exact solidEnd_nil
  · rw [← heq] at ht
    intro c hc
    exact ht c (by simp [List.getLast?_append, Option.mem_def.1 hc])

/-! ### Both ends -/

theorem trimmed_trim (t : Text) : Trimmed (trim t) :=
  ⟨(solidStart_trimStart t).trimEnd, solidEnd_trimEnd _⟩

theorem trim_trimStart (t : Text) : trim (trimStart t) = trim t := by
  rw [trim, trimStart_of_solid (solidStart_trimStart t), trim]

/-- Trimming takes a run of blanks off either end. -/
theorem exists_trim_append (t : Text) : ∃ v w, AllBlank v ∧ AllBlank w ∧ t = v ++ trim t ++ w := by
  obtain ⟨v, hv, hstart⟩ := exists_append_trimStart t
  obtain ⟨w, hw, hstop⟩ := exists_trimEnd_append (trimStart t)
  exact ⟨v, w, hv, hw, by rw [trim, List.append_assoc, hstop, hstart]⟩

theorem trim_of_trimmed {t : Text} (ht : Trimmed t) : trim t = t := by
  rw [trim, trimStart_of_solid ht.start, trimEnd_of_solid ht.stop]

theorem trim_append_of_blank {w : Text} (hw : AllBlank w) (t : Text) :
    trim (t ++ w) = trim t := by
  rw [trim, trimStart, List.dropWhile_append, ← trimStart, ← trimStart, trimStart_of_blank hw]
  split
  next h => rw [trim, List.isEmpty_iff.1 h]
  next => rw [trimEnd_append_of_blank hw, trim]

theorem trim_eq_nil_iff {t : Text} : trim t = [] ↔ AllBlank t := by
  constructor
  · intro h
    obtain ⟨v, hv, hstart⟩ := exists_append_trimStart t
    obtain ⟨w, hw, hend⟩ := exists_trimEnd_append (trimStart t)
    rw [← trim, h, List.nil_append] at hend
    rw [← hstart, ← hend]
    exact allBlank_append.2 ⟨hv, hw⟩
  · intro h
    rw [trim, trimStart_of_blank h, trimEnd_nil]

/-- The blanks on either side of a solid character are trimmed apart from each other. -/
theorem trim_append_cons {c : Char} (hc : isBlank c = false) (t u : Text) :
    trim (t ++ c :: u) = trimStart t ++ c :: trimEnd u := by
  have hstop : SolidEnd (trimStart t ++ [c]) := solidEnd_concat.2 hc
  rw [trim, trimStart_append_of_solid (solidStart_cons.2 hc), List.append_cons,
    trimEnd_append_of_solid hstop, ← List.append_cons]

theorem trim_blank_append {v w t : Text} (hv : AllBlank v) (hw : AllBlank w) (ht : Trimmed t) :
    trim (v ++ t ++ w) = t := by
  rw [trim_append_of_blank hw, trim, trimStart_append_of_blank hv, ← trim, trim_of_trimmed ht]

theorem trimStart_trimEnd (t : Text) : trimStart (trimEnd t) = trim t := by
  obtain ⟨v, w, hv, hw, heq⟩ := exists_trim_append t
  have hkept : trimEnd t = trimEnd (v ++ trim t) := by
    conv_lhs => rw [heq]
    exact trimEnd_append_of_blank hw _
  by_cases hnil : trim t = []
  · have hall : AllBlank (trimEnd t) := by
      obtain ⟨x, -, hx⟩ := exists_trimEnd_append t
      have hblank := trim_eq_nil_iff.1 hnil
      rw [← hx] at hblank
      exact (allBlank_append.1 hblank).1
    rw [hnil, trimStart_of_blank hall]
  · have hstop : SolidEnd (v ++ trim t) := (trimmed_trim t).stop.append hnil
    rw [hkept, trimEnd_of_solid hstop, trimStart_append_of_blank hv,
      trimStart_of_solid (trimmed_trim t).start]

/-! ### Texts joined with spaces -/

theorem spaced_ne_nil {t : Text} {ts : List Text} (ht : t ≠ []) : spaced (t :: ts) ≠ [] := by
  cases ts with
  | nil => exact ht
  | cons u ts => simp [ht]

theorem spaced_joined (t u : Text) (ts : List Text) :
    spaced ((t ++ ' ' :: u) :: ts) = t ++ ' ' :: spaced (u :: ts) := by
  cases ts <;> simp

theorem spaced_append {ts us : List Text} (hts : ts ≠ []) (hus : us ≠ []) :
    spaced (ts ++ us) = spaced ts ++ ' ' :: spaced us := by
  induction ts with
  | nil => exact absurd rfl hts
  | cons t ts ih =>
      cases ts with
      | nil =>
          cases us with
          | nil => exact absurd rfl hus
          | cons u us => rfl
      | cons v ts =>
          have hrest := ih (List.cons_ne_nil v ts)
          simp only [List.cons_append, spaced_cons_cons, List.append_assoc] at hrest ⊢
          rw [hrest]

theorem mem_spaced {ts : List Text} {c : Char} (h : c ∈ spaced ts) :
    c = ' ' ∨ ∃ t ∈ ts, c ∈ t := by
  induction ts with
  | nil => cases h
  | cons t ts ih =>
      cases ts with
      | nil => exact .inr ⟨t, List.mem_cons_self, h⟩
      | cons u ts =>
          rcases List.mem_append.1 h with h | h
          · exact .inr ⟨t, List.mem_cons_self, h⟩
          rcases List.mem_cons.1 h with rfl | h
          · exact .inl rfl
          · rcases ih h with rfl | ⟨v, hv, hmem⟩
            · exact .inl rfl
            · exact .inr ⟨v, List.mem_cons_of_mem t hv, hmem⟩

end NCBlock.Text
