import NCBlock.Text.Basic

/-!
Strides of code points. The tables of characters are finite lists of ranges,
so a question about all characters of two tables comes down to comparing the
ranges in pairs. The comparisons here are written with the Boolean order on
numbers, which is what the kernel evaluates fastest.
-/

namespace NCBlock

/-- Every `step`-th code point from `first` to `last`. -/
structure Stride where
  first : Nat
  last : Nat
  step : Nat

namespace Stride

def Has (s : Stride) (n : Nat) : Prop :=
  s.first ≤ n ∧ n ≤ s.last ∧ (n - s.first) % s.step = 0

/-- A single code point. -/
def point (n : Nat) : Stride := ⟨n, n, 1⟩

def ofRange (r : Nat × Nat) : Stride := ⟨r.1, r.2, 1⟩

/-- Every second code point, or one alone. -/
def isAlternating (s : Stride) : Bool := Nat.beq s.step 2 || Nat.beq s.first s.last

/-- One stride ends before the other starts, or they pass between each other. -/
def avoids (s t : Stride) : Bool :=
  Nat.ble (s.last + 1) t.first || Nat.ble (t.last + 1) s.first ||
    Nat.beq ((s.first + t.first) % 2) 1 && (s.isAlternating && t.isAlternating)

theorem has_point (n : Nat) : (point n).Has n := by simp [Has, point]

theorem has_ofRange {r : Nat × Nat} {n : Nat} (hlow : r.1 ≤ n) (hhigh : n ≤ r.2) :
    (ofRange r).Has n :=
  ⟨hlow, hhigh, Nat.mod_one _⟩

theorem Has.parity {s : Stride} {n : Nat} (hn : s.Has n) (hs : s.isAlternating = true) :
    (n - s.first) % 2 = 0 := by
  obtain ⟨hfirst, hlast, hstep⟩ := hn
  simp only [isAlternating, Bool.or_eq_true, Nat.beq_eq] at hs
  rcases hs with hs | hs
  · rwa [hs] at hstep
  · omega

theorem not_has_of_avoids {s t : Stride} (h : s.avoids t = true) {n : Nat} (hs : s.Has n) :
    ¬t.Has n := by
  intro ht
  have hsBounds : s.first ≤ n ∧ n ≤ s.last := ⟨hs.1, hs.2.1⟩
  have htBounds : t.first ≤ n ∧ n ≤ t.last := ⟨ht.1, ht.2.1⟩
  simp only [avoids, Bool.or_eq_true, Bool.and_eq_true, Nat.ble_eq, Nat.beq_eq] at h
  rcases h with (h | h) | ⟨hodd, hsAlt, htAlt⟩
  · omega
  · omega
  · have hsParity := hs.parity hsAlt
    have htParity := ht.parity htAlt
    omega

/-- No stride of one list meets a stride of another. -/
def disjoint (ss ts : List Stride) : Bool := ss.all fun s => ts.all s.avoids

theorem not_has_of_disjoint {ss ts : List Stride} (h : disjoint ss ts = true) {s t : Stride}
    (hs : s ∈ ss) (ht : t ∈ ts) {n : Nat} (hn : s.Has n) : ¬t.Has n :=
  not_has_of_avoids (List.all_eq_true.1 (List.all_eq_true.1 h s hs) t ht) hn

end Stride

theorem exists_range_of_inRanges {rs : List (Nat × Nat)} {n : Nat}
    (h : inRanges rs n = true) : ∃ r ∈ rs, r.1 ≤ n ∧ n ≤ r.2 := by
  induction rs with
  | nil => simp [inRanges] at h
  | cons r rs ih =>
      simp only [inRanges, Bool.and_eq_true, Bool.or_eq_true, decide_eq_true_eq] at h
      obtain ⟨hlow, hhigh | hrest⟩ := h
      · exact ⟨r, List.mem_cons_self, hlow, hhigh⟩
      · obtain ⟨s, hs, hbounds⟩ := ih hrest
        exact ⟨s, List.mem_cons_of_mem r hs, hbounds⟩

/-- The ranges start one after the other. -/
def startsRise : List (Nat × Nat) → Bool
  | r :: s :: rest => Nat.ble r.1 s.1 && startsRise (s :: rest)
  | _ => true

theorem first_le_of_startsRise {r s : Nat × Nat} {rs : List (Nat × Nat)}
    (h : startsRise (r :: rs) = true) (hs : s ∈ rs) : r.1 ≤ s.1 := by
  induction rs generalizing r with
  | nil => cases hs
  | cons t rs ih =>
      simp only [startsRise, Bool.and_eq_true, Nat.ble_eq] at h
      rcases List.mem_cons.1 hs with rfl | hs
      · exact h.1
      · exact Nat.le_trans h.1 (ih h.2 hs)

/-- A look-up may stop at the first range above a code point only because the
ranges rise. -/
theorem inRanges_of_mem {rs : List (Nat × Nat)} (hrise : startsRise rs = true) {r : Nat × Nat}
    (hr : r ∈ rs) {n : Nat} (hlow : r.1 ≤ n) (hhigh : n ≤ r.2) : inRanges rs n = true := by
  induction rs with
  | nil => cases hr
  | cons s rs ih =>
      rw [inRanges, Bool.and_eq_true, Bool.or_eq_true, decide_eq_true_eq, decide_eq_true_eq]
      rcases List.mem_cons.1 hr with rfl | hr
      · exact ⟨hlow, .inl hhigh⟩
      · have htail : startsRise rs = true := by
          cases rs with
          | nil => rfl
          | cons t rs =>
              simp only [startsRise, Bool.and_eq_true] at hrise
              exact hrise.2
        exact ⟨Nat.le_trans (first_le_of_startsRise hrise hr) hlow, .inr (ih htail hr)⟩

/-- Every range of one list lies within a range of the other. -/
def rangesWithin (rs ss : List (Nat × Nat)) : Bool :=
  rs.all fun r => ss.any fun s => Nat.ble s.1 r.1 && Nat.ble r.2 s.2

theorem inRanges_of_within {rs ss : List (Nat × Nat)} (hwithin : rangesWithin rs ss = true)
    (hrise : startsRise ss = true) {n : Nat} (h : inRanges rs n = true) :
    inRanges ss n = true := by
  obtain ⟨r, hr, hlow, hhigh⟩ := exists_range_of_inRanges h
  obtain ⟨s, hs, hbounds⟩ := List.any_eq_true.1 (List.all_eq_true.1 hwithin r hr)
  simp only [Bool.and_eq_true, Nat.ble_eq] at hbounds
  exact inRanges_of_mem hrise hs (Nat.le_trans hbounds.1 hlow) (Nat.le_trans hhigh hbounds.2)

theorem not_inRanges_of_disjoint {rs ss : List (Nat × Nat)}
    (h : Stride.disjoint (rs.map Stride.ofRange) (ss.map Stride.ofRange) = true) {n : Nat}
    (hn : inRanges rs n = true) : inRanges ss n = false := by
  rw [← Bool.not_eq_true]
  intro hss
  obtain ⟨r, hr, hrLow, hrHigh⟩ := exists_range_of_inRanges hn
  obtain ⟨s, hs, hsLow, hsHigh⟩ := exists_range_of_inRanges hss
  exact Stride.not_has_of_disjoint h (List.mem_map_of_mem hr) (List.mem_map_of_mem hs)
    (Stride.has_ofRange hrLow hrHigh) (Stride.has_ofRange hsLow hsHigh)

end NCBlock
