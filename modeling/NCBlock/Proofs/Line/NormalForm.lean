import NCBlock.Line.Sections
import NCBlock.Proofs.Text.Blank
import NCBlock.Proofs.Text.Class

/-!
The normal form of a line as a property of texts. Normalizing a line brings it
into normal form, and a line in normal form is left as it is.
-/

namespace NCBlock.Line

structure IsNormal (t : Text) : Prop where
  trimmed : t.Trimmed
  capital : ∀ c ∈ t, capitals c = [c]
  loose : t.Loose
  flat : ∀ c ∈ t, isLineControl c = false

/-! ### Squeezing -/

theorem squeeze_eq_self {t : Text} (ht : t.Loose) : squeeze t = t := by
  induction t with
  | nil => rfl
  | cons c t ih =>
      rw [squeeze, ih (List.isChain_cons.1 ht).2]
      cases t with
      | nil => rfl
      | cons d t =>
          have hpair : isBlank c = false ∨ isBlank d = false :=
            (List.isChain_cons_cons.1 ht).1
          rcases hpair with h | h <;> simp [h]

/-- Squeezing keeps the class of the first character. -/
theorem squeeze_cons (c : Char) (t : Text) :
    ∃ d kept, squeeze (c :: t) = d :: kept ∧ isBlank d = isBlank c := by
  rw [squeeze]
  split
  · exact ⟨c, [], rfl, rfl⟩
  next d kept _ =>
    split
    next h =>
      rw [Bool.and_eq_true] at h
      exact ⟨' ', kept, rfl, by rw [h.1]; decide⟩
    next => exact ⟨c, d :: kept, rfl, rfl⟩

theorem loose_squeeze (t : Text) : (squeeze t).Loose := by
  induction t with
  | nil => exact .nil
  | cons c t ih =>
      rw [squeeze]
      split
      · exact .singleton c
      next d kept hkept =>
        rw [hkept] at ih
        split
        next h =>
          -- the space takes the place of a blank, and what follows that one is solid
          rw [Bool.and_eq_true] at h
          refine List.isChain_cons.2 ⟨fun e he => .inr ?_, (List.isChain_cons.1 ih).2⟩
          have hpair := (List.isChain_cons.1 ih).1 e he
          rw [h.2] at hpair
          simpa using hpair
        next h =>
          refine List.isChain_cons_cons.2 ⟨?_, ih⟩
          simpa [Bool.and_eq_true, or_iff_not_imp_left] using h

/-- Squeezing brings in no character but the space. -/
theorem mem_of_mem_squeeze {t : Text} {c : Char} (h : c ∈ squeeze t) : c ∈ t ∨ c = ' ' := by
  induction t with
  | nil => cases h
  | cons d t ih =>
      rw [squeeze] at h
      split at h
      · exact .inl (by rw [List.mem_singleton.1 h]; exact List.mem_cons_self)
      next e kept hkept =>
        rw [hkept] at ih
        split at h
        · rcases List.mem_cons.1 h with rfl | h
          · exact .inr rfl
          · exact (ih (List.mem_cons_of_mem e h)).imp_left (List.mem_cons_of_mem d)
        · rcases List.mem_cons.1 h with rfl | h
          · exact .inl List.mem_cons_self
          · exact (ih h).imp_left (List.mem_cons_of_mem d)

theorem allBlank_squeeze {w : Text} (hw : w.AllBlank) : (squeeze w).AllBlank := by
  intro c hc
  rcases mem_of_mem_squeeze hc with hc | rfl
  · exact hw c hc
  · decide

theorem solidStart_squeeze {t : Text} : (squeeze t).SolidStart ↔ t.SolidStart := by
  cases t with
  | nil => rfl
  | cons c t =>
      obtain ⟨d, kept, heq, hclass⟩ := squeeze_cons c t
      rw [heq, Text.solidStart_cons, Text.solidStart_cons, hclass]

/-- A run of blanks that does not reach over the seam is squeezed on its own. -/
theorem squeeze_append {t u : Text} (h : t.SolidEnd ∨ u.SolidStart) :
    squeeze (t ++ u) = squeeze t ++ squeeze u := by
  induction t with
  | nil => rfl
  | cons c t ih =>
      have hrest : Text.SolidEnd t ∨ u.SolidStart := h.imp_left (Text.SolidEnd.right (t := [c]))
      rw [List.cons_append, squeeze, ih hrest, squeeze]
      cases t with
      | cons d t =>
          obtain ⟨e, kept, heq, -⟩ := squeeze_cons d t
          rw [heq]
          simp only [List.cons_append]
          split <;> rfl
      | nil =>
          -- the seam is right behind `c`
          have hseam : isBlank c = false ∨ (squeeze u).SolidStart :=
            h.imp (Text.solidEnd_concat (t := [])).1 solidStart_squeeze.2
          rw [squeeze, List.nil_append]
          split
          next hkept => rw [hkept, List.append_nil]
          next d kept hkept =>
            rw [hkept, Text.solidStart_cons] at hseam
            rw [hkept]
            rcases hseam with hc | hd
            · simp [hc]
            · simp [hd]

theorem squeeze_cons_of_solid {c : Char} (hc : isBlank c = false) (t : Text) :
    squeeze (c :: t) = c :: squeeze t :=
  squeeze_append (t := [c]) (.inl ((Text.solidEnd_concat (t := [])).2 hc))

theorem trimmed_squeeze {t : Text} (ht : t.Trimmed) : (squeeze t).Trimmed := by
  refine ⟨solidStart_squeeze.2 ht.start, ?_⟩
  rcases List.eq_nil_or_concat' t with rfl | ⟨t, c, rfl⟩
  · exact Text.solidEnd_nil
  · have hc := Text.solidEnd_concat.1 ht.stop
    rw [squeeze_append (.inr (Text.solidStart_cons.2 hc))]
    exact Text.solidEnd_concat.2 hc

/-! ### Flattening -/

theorem isBlank_flat (c : Char) : isBlank (if isLineControl c then ' ' else c) = isBlank c := by
  split
  next h =>
    rw [isBlank_of_isLineControl h]
    decide
  next => rfl

theorem flatten_eq_self {t : Text} (ht : ∀ c ∈ t, isLineControl c = false) : flatten t = t := by
  rw [flatten, List.map_congr_left (g := id), List.map_id]
  intro c hc
  simp [ht c hc]

theorem mem_of_mem_flatten {t : Text} {c : Char} (h : c ∈ flatten t) :
    (c ∈ t ∨ c = ' ') ∧ isLineControl c = false := by
  obtain ⟨d, hd, rfl⟩ := List.mem_map.1 h
  cases hcontrol : isLineControl d with
  | true => exact ⟨.inr rfl, rfl⟩
  | false => exact ⟨.inl (by simpa using hd), by simpa using hcontrol⟩

theorem loose_flatten {t : Text} (ht : t.Loose) : (flatten t).Loose := by
  refine (List.isChain_map _).2 (ht.imp fun c d h => ?_)
  simpa only [isBlank_flat] using h

theorem trimmed_flatten {t : Text} (ht : t.Trimmed) : (flatten t).Trimmed := by
  constructor
  · intro c hc
    rw [flatten, List.head?_map] at hc
    obtain ⟨d, hd, rfl⟩ := Option.map_eq_some_iff.1 hc
    rw [isBlank_flat]
    exact ht.start d hd
  · intro c hc
    rw [flatten, List.getLast?_map] at hc
    obtain ⟨d, hd, rfl⟩ := Option.map_eq_some_iff.1 hc
    rw [isBlank_flat]
    exact ht.stop d hd

/-! ### Capitals -/

theorem upperCase_of_blank {w : Text} (hw : w.AllBlank) : Text.upperCase w = w :=
  Text.upperCase_eq_self_iff.2 fun c hc => capitals_of_isBlank (hw c hc)

theorem solidStart_upperCase {t : Text} (ht : t.SolidStart) : (Text.upperCase t).SolidStart := by
  cases t with
  | nil => exact Text.solidStart_nil
  | cons c t =>
      rw [← List.singleton_append, Text.upperCase_append]
      have hcapitals : Text.upperCase [c] = capitals c := by simp [Text.upperCase]
      rw [hcapitals]
      refine Text.SolidStart.append (fun d hd => ?_) (capitals_ne_nil c)
      rw [isBlank_of_mem_capitals (List.mem_of_mem_head? hd)]
      exact Text.solidStart_cons.1 ht

theorem solidEnd_upperCase {t : Text} (ht : t.SolidEnd) : (Text.upperCase t).SolidEnd := by
  rcases List.eq_nil_or_concat' t with rfl | ⟨t, c, rfl⟩
  · exact Text.solidEnd_nil
  · rw [Text.upperCase_append]
    have hcapitals : Text.upperCase [c] = capitals c := by simp [Text.upperCase]
    rw [hcapitals]
    refine Text.SolidEnd.append (fun d hd => ?_) (capitals_ne_nil c)
    rw [isBlank_of_mem_capitals (List.mem_of_getLast? hd)]
    exact Text.solidEnd_concat.1 ht

/-! ### Normal lines -/

theorem isNormal_normalize (line : Text) : IsNormal (normalize line) := by
  have htrim := Text.trimmed_trim line
  have hupper : (Text.upperCase (Text.trim line)).Trimmed :=
    ⟨solidStart_upperCase htrim.start, solidEnd_upperCase htrim.stop⟩
  refine ⟨trimmed_flatten (trimmed_squeeze hupper), ?_, loose_flatten (loose_squeeze _), ?_⟩
  · intro c hc
    have hspace : capitals ' ' = [' '] := capitals_of_lt (by decide)
    rcases (mem_of_mem_flatten hc).1 with hc | rfl
    · rcases mem_of_mem_squeeze hc with hc | rfl
      · exact Text.capitals_of_mem_upperCase hc
      · exact hspace
    · exact hspace
  · intro c hc
    exact (mem_of_mem_flatten hc).2

theorem IsNormal.normalize {t : Text} (ht : IsNormal t) : normalize t = t := by
  rw [Line.normalize, Text.trim_of_trimmed ht.trimmed, Text.upperCase_eq_self_iff.2 ht.capital,
    squeeze_eq_self ht.loose, flatten_eq_self ht.flat]

theorem IsNormal.of_isInfix {t u : Text} (ht : IsNormal t) (hu : u <:+: t)
    (htrim : u.Trimmed) : IsNormal u :=
  ⟨htrim, fun c hc => ht.capital c (hu.subset hc), ht.loose.of_isInfix hu,
    fun c hc => ht.flat c (hu.subset hc)⟩

/-! ### Texts put together -/

theorem isNormal_nil : IsNormal [] :=
  ⟨⟨Text.solidStart_nil, Text.solidEnd_nil⟩, by simp, .nil, by simp⟩

theorem IsNormal.append {t u : Text} (ht : IsNormal t) (hu : IsNormal u) : IsNormal (t ++ u) := by
  by_cases htnil : t = []
  · rwa [htnil]
  by_cases hunil : u = []
  · rwa [hunil, List.append_nil]
  refine ⟨⟨ht.trimmed.start.append htnil, hu.trimmed.stop.append hunil⟩, ?_,
    ht.loose.append hu.loose (.inl ht.trimmed.stop), ?_⟩
  · intro c hc
    exact (List.mem_append.1 hc).elim (ht.capital c) (hu.capital c)
  · intro c hc
    exact (List.mem_append.1 hc).elim (ht.flat c) (hu.flat c)

/-- A single space may stand between two texts, if it stands at neither end. -/
theorem IsNormal.append_space {t u : Text} (ht : IsNormal t) (hu : IsNormal u) (htne : t ≠ [])
    (hune : u ≠ []) : IsNormal (t ++ ' ' :: u) := by
  have hmem {c : Char} (hc : c ∈ t ++ ' ' :: u) : c = ' ' ∨ c ∈ t ∨ c ∈ u := by
    rcases List.mem_append.1 hc with hc | hc
    · exact .inr (.inl hc)
    · exact (List.mem_cons.1 hc).imp_right .inr
  refine ⟨⟨ht.trimmed.start.append htne, ?_⟩, ?_, ?_, ?_⟩
  · rw [List.append_cons]
    exact hu.trimmed.stop.append hune
  · intro c hc
    rcases hmem hc with rfl | hc | hc
    · exact capitals_of_lt (by decide)
    · exact ht.capital c hc
    · exact hu.capital c hc
  · have hspace : Text.Loose (' ' :: u) :=
      List.isChain_cons.2 ⟨fun d hd => .inr (hu.trimmed.start d hd), hu.loose⟩
    exact ht.loose.append hspace (.inl ht.trimmed.stop)
  · intro c hc
    rcases hmem hc with rfl | hc | hc
    · decide
    · exact ht.flat c hc
    · exact hu.flat c hc

theorem isNormal_spaced {ts : List Text} (hnormal : ∀ t ∈ ts, IsNormal t)
    (hne : ∀ t ∈ ts, t ≠ []) : IsNormal (Text.spaced ts) := by
  induction ts with
  | nil => exact isNormal_nil
  | cons t ts ih =>
      have hrest := ih (fun u hu => hnormal u (List.mem_cons_of_mem t hu))
        fun u hu => hne u (List.mem_cons_of_mem t hu)
      cases ts with
      | nil => exact hnormal t List.mem_cons_self
      | cons u ts =>
          have hu := hne u (by simp)
          exact (hnormal t List.mem_cons_self).append_space hrest (hne t List.mem_cons_self)
            (Text.spaced_ne_nil hu)

end NCBlock.Line
