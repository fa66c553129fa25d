import NCBlock.Proofs.Text.Stride
import NCBlock.Text.UpperCase

/-!
Upper case of texts. A capital is its own upper case, upper case consists of
capitals only, and a letter is never turned into a blank or a blank into
something else. All of it is read off the two tables by comparing the strides
of their letters, of their capitals and of the blanks.
-/

namespace NCBlock

def CaseRun.letters (r : CaseRun) : Stride := ⟨r.first, r.last, r.step⟩

def CaseRun.capitals (r : CaseRun) : Stride :=
  ⟨r.capital, r.capital + (r.last - r.first), r.step⟩

/-- The letters that have an upper case other than themselves. -/
def letterStrides : List Stride :=
  caseRuns.map CaseRun.letters ++ caseExpansions.map fun p => .point p.1

/-- The code points that occur in upper case. -/
def capitalStrides : List Stride :=
  caseRuns.map CaseRun.capitals ++ caseExpansions.flatMap fun p => p.2.map .point

def blankStrides : List Stride := blankRanges.map .ofRange

/-- A stride without surrogates and within the code points. -/
def Stride.isScalar (s : Stride) : Bool :=
  Nat.ble (s.last + 1) 0xD800 || Nat.ble 0xE000 s.first && Nat.ble (s.last + 1) 0x110000

set_option maxRecDepth 10000 in
theorem capitalStrides_disjoint_letters :
    Stride.disjoint capitalStrides letterStrides = true := by decide +kernel

set_option maxRecDepth 10000 in
theorem blankStrides_disjoint_letters :
    Stride.disjoint blankStrides letterStrides = true := by decide +kernel

set_option maxRecDepth 10000 in
theorem blankStrides_disjoint_capitals :
    Stride.disjoint blankStrides capitalStrides = true := by decide +kernel

set_option maxRecDepth 10000 in
theorem capitalStrides_isScalar : capitalStrides.all Stride.isScalar = true := by decide +kernel

set_option maxRecDepth 10000 in
theorem letterStrides_first : letterStrides.all (fun s => Nat.ble 0x61 s.first) = true := by
  decide +kernel

set_option maxRecDepth 10000 in
theorem capitalStrides_first : capitalStrides.all (fun s => Nat.ble 0x41 s.first) = true := by
  decide +kernel

set_option maxRecDepth 10000 in
theorem caseExpansions_ne_nil : caseExpansions.all (fun p => !p.2.isEmpty) = true := by
  decide +kernel

theorem isValidChar_of_isScalar {s : Stride} (hs : s.isScalar = true) {n : Nat} (hn : s.Has n) :
    n.isValidChar := by
  obtain ⟨hfirst, hlast, -⟩ := hn
  simp only [Stride.isScalar, Bool.or_eq_true, Bool.and_eq_true, Nat.ble_eq] at hs
  unfold Nat.isValidChar
  omega

/-! ### Look-ups -/

theorem capital?_eq_some {runs : List CaseRun} {n m : Nat} (h : capital? runs n = some m) :
    ∃ r ∈ runs, r.letters.Has n ∧ r.capitals.Has m := by
  induction runs with
  | nil => simp [capital?] at h
  | cons r runs ih =>
      rw [capital?] at h
      split at h
      · cases h
      · split at h
        next hlow hin =>
          obtain ⟨hhigh, hstep⟩ := hin
          cases h
          refine ⟨r, List.mem_cons_self, ⟨by simpa [CaseRun.letters] using hlow, hhigh, hstep⟩,
            ⟨?_, ?_, ?_⟩⟩
          · simp [CaseRun.capitals]
          · simp only [CaseRun.capitals]
            omega
          · simpa [CaseRun.capitals] using hstep
        next =>
          obtain ⟨s, hs, hrest⟩ := ih h
          exact ⟨s, List.mem_cons_of_mem r hs, hrest⟩

theorem expansion?_eq_some {table : List (Nat × List Nat)} {n : Nat} {ns : List Nat}
    (h : expansion? table n = some ns) : (n, ns) ∈ table := by
  induction table with
  | nil => simp [expansion?] at h
  | cons entry table ih =>
      obtain ⟨letter, capitals⟩ := entry
      rw [expansion?] at h
      split at h
      · cases h
      · split at h
        next heq =>
          cases h
          rw [heq]
          exact List.mem_cons_self
        next => exact List.mem_cons_of_mem _ (ih h)

/-- What `capitals` answers: the character itself, or capitals of a letter in
the tables. -/
theorem capitals_cases (c : Char) :
    capitals c = [c] ∨
      ∃ s ∈ letterStrides, s.Has c.toNat ∧ capitals c ≠ [] ∧
        ∀ d ∈ capitals c, ∃ t ∈ capitalStrides, t.Has d.toNat := by
  have hchar {m : Nat} {t : Stride} (ht : t ∈ capitalStrides) (hm : t.Has m) :
      (Char.ofNat m).toNat = m := by
    have hvalid := isValidChar_of_isScalar (List.all_eq_true.1 capitalStrides_isScalar t ht) hm
    rw [Char.ofNat, dif_pos hvalid]
    rfl
  rw [capitals]
  split
  next m hm =>
    obtain ⟨r, hr, hletter, hcapital⟩ := capital?_eq_some hm
    have ht : r.capitals ∈ capitalStrides := by
      exact List.mem_append_left _ (List.mem_map_of_mem hr)
    -- a letter with one capital
    refine .inr ⟨r.letters, List.mem_append_left _ (List.mem_map_of_mem hr), hletter, by simp, ?_⟩
    intro d hd
    rw [List.mem_singleton.1 hd]
    exact ⟨r.capitals, ht, (hchar ht hcapital).symm ▸ hcapital⟩
  next =>
    split
    next ns hns =>
      have hentry := expansion?_eq_some hns
      have hne : ns ≠ [] := by
        simpa using List.all_eq_true.1 caseExpansions_ne_nil _ hentry
      -- a letter with several capitals, each of them a stride of its own
      refine .inr ⟨.point c.toNat, ?_, Stride.has_point _, by simpa using hne, ?_⟩
      · exact List.mem_append_right _ (List.mem_map.2 ⟨_, hentry, rfl⟩)
      · intro d hd
        obtain ⟨m, hm, rfl⟩ := List.mem_map.1 hd
        have ht : Stride.point m ∈ capitalStrides :=
          List.mem_append_right _
            (List.mem_flatMap.2 ⟨_, hentry, List.mem_map_of_mem hm⟩)
        exact ⟨.point m, ht, (hchar ht (Stride.has_point m)).symm ▸ Stride.has_point m⟩
    next => exact .inl rfl

/-! ### Upper case of a character -/

theorem capitals_ne_nil (c : Char) : capitals c ≠ [] := by
  rcases capitals_cases c with h | ⟨-, -, -, hne, -⟩
  · simp [h]
  · exact hne

theorem capitals_of_lt {c : Char} (h : c.toNat < 0x61) : capitals c = [c] := by
  rcases capitals_cases c with hself | ⟨s, hs, ⟨hfirst, -⟩, -⟩
  · exact hself
  · have hlow := List.all_eq_true.1 letterStrides_first s hs
    rw [Nat.ble_eq] at hlow
    omega

/-- What stands before the letters in ASCII does not come from a letter. -/
theorem eq_of_mem_capitals {c d : Char} (h : d ∈ capitals c) (hd : d.toNat < 0x41) : d = c := by
  rcases capitals_cases c with hself | ⟨-, -, -, -, hcapital⟩
  · rw [hself] at h
    exact List.mem_singleton.1 h
  · obtain ⟨t, ht, hfirst, -⟩ := hcapital d h
    have hlow := List.all_eq_true.1 capitalStrides_first t ht
    rw [Nat.ble_eq] at hlow
    omega

/-- Upper case consists of capitals. -/
theorem capitals_of_mem_capitals {c d : Char} (h : d ∈ capitals c) : capitals d = [d] := by
  rcases capitals_cases c with hself | ⟨-, -, -, -, hcapital⟩
  · rw [hself, List.mem_singleton] at h
    rw [h, hself]
  · obtain ⟨t, ht, hd⟩ := hcapital d h
    rcases capitals_cases d with hself | ⟨s, hs, hletter, -⟩
    · exact hself
    · exact absurd hletter
        (Stride.not_has_of_disjoint capitalStrides_disjoint_letters ht hs hd)

theorem isBlank_of_mem_capitals {c d : Char} (h : d ∈ capitals c) : isBlank d = isBlank c := by
  have hblank {e : Char} (he : isBlank e = true) : ∃ s ∈ blankStrides, s.Has e.toNat := by
    obtain ⟨r, hr, hlow, hhigh⟩ := exists_range_of_inRanges he
    exact ⟨.ofRange r, List.mem_map_of_mem hr, Stride.has_ofRange hlow hhigh⟩
  rcases capitals_cases c with hself | ⟨s, hs, hletter, -, hcapital⟩
  · rw [hself, List.mem_singleton] at h
    rw [h]
  · have hc : isBlank c = false := by
      rw [← Bool.not_eq_true]
      intro hc
      obtain ⟨b, hb, hbc⟩ := hblank hc
      exact Stride.not_has_of_disjoint blankStrides_disjoint_letters hb hs hbc hletter
    have hd : isBlank d = false := by
      rw [← Bool.not_eq_true]
      intro hd
      obtain ⟨b, hb, hbd⟩ := hblank hd
      obtain ⟨t, ht, htd⟩ := hcapital d h
      exact Stride.not_has_of_disjoint blankStrides_disjoint_capitals hb ht hbd htd
    rw [hc, hd]

theorem capitals_of_isBlank {c : Char} (h : isBlank c = true) : capitals c = [c] := by
  rcases capitals_cases c with hself | ⟨s, hs, hletter, -⟩
  · exact hself
  · obtain ⟨r, hr, hlow, hhigh⟩ := exists_range_of_inRanges h
    exact absurd hletter (Stride.not_has_of_disjoint blankStrides_disjoint_letters
      (List.mem_map_of_mem hr) hs (Stride.has_ofRange hlow hhigh))

/-! ### Upper case of a text -/

namespace Text

@[simp] theorem upperCase_append (t u : Text) :
    upperCase (t ++ u) = upperCase t ++ upperCase u :=
  List.flatMap_append

theorem upperCase_eq_self_iff {t : Text} :
    upperCase t = t ↔ ∀ c ∈ t, capitals c = [c] := by
  constructor
  · intro h c hc
    rw [← h] at hc
    obtain ⟨d, -, hd⟩ := List.mem_flatMap.1 hc
    exact capitals_of_mem_capitals hd
  · intro h
    induction t with
    | nil => rfl
    | cons c t ih =>
        have ht := ih fun d hd => h d (List.mem_cons_of_mem c hd)
        rw [upperCase] at ht ⊢
        rw [List.flatMap_cons, ht, h c List.mem_cons_self, List.singleton_append]

theorem capitals_of_mem_upperCase {t : Text} {c : Char} (h : c ∈ upperCase t) :
    capitals c = [c] := by
  obtain ⟨d, -, hd⟩ := List.mem_flatMap.1 h
  exact capitals_of_mem_capitals hd

end Text

end NCBlock
