import NCBlock.Block.Basic
import NCBlock.Proofs.Block.RoundTrip
import NCBlock.Proofs.Json.Layout

/-!
The JSON form of blocks. Each section is a member of its own, an address names
its kind, and numbers and strings are told by their texts. So nothing is lost as
long as every float is finite, as it is in a block that is read from a line.
-/

namespace NCBlock

/-! ### Addresses -/

theorem AddressKind.text_inj {k l : AddressKind} (h : k.text = l.text) : k = l := by
  cases k <;> cases l <;> first | rfl | cases h

namespace Address

/-- A float in an address is finite; the JSON form has nothing for the others. -/
def IsFinite : Address → Prop
  | .float32 v => v.isFinite = true
  | _ => True

theorem proper_json (a : Address) : a.json.Proper := by
  have hvalue : a.jsonValue.Proper := by
    cases a with
    | int32 i => exact .number (Text.isNumeric_ofInt _)
    | uint32 n => exact .number (Text.isNumeric_ofNat _)
    | float32 v =>
        rw [jsonValue, jsonFloat]
        split
        · exact .number (Binary32.isNumeric_write _ v)
        · exact .null
    | string q => exact .string q.raw
  exact .object (List.forall_mem_cons.2 ⟨.string _, List.forall_mem_singleton.2 hvalue⟩)

theorem json_inj {a b : Address} (ha : a.IsFinite) (hb : b.IsFinite) (h : a.json = b.json) :
    a = b := by
  simp only [json, Json.object.injEq, List.cons.injEq, Prod.mk.injEq, Json.string.injEq, true_and,
    and_true] at h
  obtain ⟨hkind, hvalue⟩ := h
  have hkind := AddressKind.text_inj hkind
  cases a with
  | int32 i =>
      cases b with
      | int32 j => rw [Int32.toInt_inj.1 (Text.ofInt_inj (Json.number.inj hvalue))]
      | _ => cases hkind
  | uint32 m =>
      cases b with
      | uint32 n => rw [UInt32.toNat_inj.1 (Text.ofNat_inj (Json.number.inj hvalue))]
      | _ => cases hkind
  | float32 v =>
      cases b with
      | float32 w =>
          have hv : v.isFinite = true := ha
          have hw : w.isFinite = true := hb
          simp only [jsonValue, jsonFloat, hv, hw, if_true, Json.number.injEq] at hvalue
          rw [Binary32.write_inj hv hw hvalue]
      | _ => cases hkind
  | string q =>
      cases b with
      | string r =>
          obtain ⟨raw, _⟩ := q
          obtain ⟨raw', _⟩ := r
          cases hvalue
          rfl
      | _ => cases hkind

end Address

/-! ### Gcodes -/

theorem Word.json_inj {w v : Word} (h : w.json = v.json) : w = v := by
  obtain ⟨letter, _⟩ := w
  obtain ⟨letter', _⟩ := v
  cases h
  rfl

namespace Gcode

def IsFinite (g : Gcode) : Prop := ∀ a ∈ g.address?, a.IsFinite

theorem proper_json (g : Gcode) : g.json.Proper := by
  cases g with
  | bare w => exact .object (by simp [Word.json, Json.Proper.string])
  | addressed w a => exact .object (by simp [Word.json, Json.Proper.string, a.proper_json])

theorem json_inj {g h : Gcode} (hg : g.IsFinite) (hh : h.IsFinite) (heq : g.json = h.json) :
    g = h := by
  cases g with
  | bare w =>
      cases h with
      | bare v =>
          simp only [json, Json.object.injEq, List.cons.injEq, Prod.mk.injEq, true_and,
            and_true] at heq
          rw [Word.json_inj heq]
      | addressed v b => simp [json] at heq
  | addressed w a =>
      cases h with
      | bare v => simp [json] at heq
      | addressed v b =>
          simp only [json, Json.object.injEq, List.cons.injEq, Prod.mk.injEq, true_and,
            and_true] at heq
          rw [Word.json_inj heq.1, Address.json_inj (hg a rfl) (hh b rfl) heq.2]

theorem map_json_inj {gs hs : List Gcode} (hgs : ∀ g ∈ gs, g.IsFinite) (hhs : ∀ h ∈ hs, h.IsFinite)
    (heq : gs.map json = hs.map json) : gs = hs := by
  induction gs generalizing hs with
  | nil => exact (List.map_eq_nil_iff.1 heq.symm).symm
  | cons g gs ih =>
      cases hs with
      | nil => cases heq
      | cons h hs =>
          rw [List.forall_mem_cons] at hgs hhs
          obtain ⟨hfirst, hrest⟩ := List.cons.inj heq
          rw [json_inj hgs.1 hhs.1 hfirst, ih hgs.2 hhs.2 hrest]

end Gcode

/-! ### Blocks -/

/-- The first member of a name. -/
def Json.member? (name : Text) : Json → Option Json
  | .object members => members.lookup name
  | _ => none

namespace Block

def IsFinite (b : Block) : Prop := ∀ g ∈ b.gcodes, g.IsFinite

theorem jsonNumber_inj (m n : UInt32) (h : jsonNumber m = jsonNumber n) : m = n :=
  UInt32.toNat_inj.1 (Text.ofNat_inj (Json.number.inj h))

/-- Each section can be found by its name, and is missing where the block does not have it. -/
theorem member?_json (b : Block) :
    b.json.member? "line_number".toList = b.lineNumber.map jsonNumber ∧
    b.json.member? "command".toList = some b.command.json ∧
    b.json.member? "parameters".toList = some (.array (b.parameters.map Gcode.json)) ∧
    b.json.member? "checksum".toList = b.checksum.map jsonNumber ∧
    b.json.member? "comment".toList = b.comment.map .string := by
  obtain ⟨lineNumber, command, parameters, checksum, comment⟩ := b
  cases lineNumber <;> cases checksum <;> cases comment <;> exact ⟨rfl, rfl, rfl, rfl, rfl⟩

theorem proper_json (b : Block) : b.json.Proper := by
  have hmember {name : Text} {value : Option Json} (hvalue : ∀ j ∈ value, j.Proper) :
      ∀ m ∈ jsonMember name value, m.2.Proper := by
    cases value with
    | none => exact List.forall_mem_nil _
    | some j => exact List.forall_mem_singleton.2 (hvalue j rfl)
  have hnumber {name : Text} (n : Option UInt32) :
      ∀ m ∈ jsonMember name (n.map jsonNumber), m.2.Proper := by
    refine hmember fun j hj => ?_
    obtain ⟨n, -, rfl⟩ := Option.map_eq_some_iff.1 hj
    exact .number (Text.isNumeric_ofNat _)
  have hparameters : ∀ j ∈ b.parameters.map Gcode.json, j.Proper := by
    intro j hj
    obtain ⟨g, -, rfl⟩ := List.mem_map.1 hj
    exact g.proper_json
  have hcomment : ∀ m ∈ jsonMember "comment".toList (b.comment.map .string), m.2.Proper := by
    refine hmember fun j hj => ?_
    obtain ⟨t, -, rfl⟩ := Option.map_eq_some_iff.1 hj
    exact .string t
  refine .object ?_
  simp only [List.forall_mem_append, List.forall_mem_cons]
  exact ⟨⟨⟨hnumber _, b.command.proper_json, .array hparameters, List.forall_mem_nil _⟩,
    hnumber _⟩, hcomment⟩

variable {b c : Block}

theorem json_inj (hb : b.IsFinite) (hc : c.IsFinite) (h : b.json = c.json) : b = c := by
  obtain ⟨hnumber, hcommand, hparameters, hchecksum, hcomment⟩ := b.member?_json
  obtain ⟨hnumber', hcommand', hparameters', hchecksum', hcomment'⟩ := c.member?_json
  rw [h] at hnumber hcommand hparameters hchecksum hcomment
  rw [hnumber, Option.map_inj_right jsonNumber_inj] at hnumber'
  rw [hcommand, Option.some.injEq] at hcommand'
  rw [hparameters, Option.some.injEq, Json.array.injEq] at hparameters'
  rw [hchecksum, Option.map_inj_right jsonNumber_inj] at hchecksum'
  rw [hcomment, Option.map_inj_right fun _ _ => Json.string.inj] at hcomment'
  have hfirst := Gcode.json_inj (hb _ List.mem_cons_self) (hc _ List.mem_cons_self) hcommand'
  have hothers := Gcode.map_json_inj (fun g hg => hb g (List.mem_cons_of_mem _ hg))
    (fun g hg => hc g (List.mem_cons_of_mem _ hg)) hparameters'
  cases b
  cases c
  simp_all

theorem isFinite_of_parse {line : Text} (h : parse line = .ok b) : b.IsFinite := by
  intro g hg a ha
  have hreadable := (readable_of_parse h).gcodes g hg
  cases g with
  | bare w => cases ha
  | addressed w a' =>
      cases ha
      cases a with
      | float32 v => exact hreadable.2
      | _ => trivial

/-- Blocks with finite floats, among them all that are read from a line, are told by the text of
their JSON form in either layout. -/
theorem eq_iff_json_text_eq : (∀ line b, parse line = .ok b → b.IsFinite) ∧
    ∀ b c : Block, b.IsFinite → c.IsFinite →
      (b.json.compact = c.json.compact ↔ b = c) ∧
      ∀ level, b.json.pretty level = c.json.pretty level ↔ b = c := by
  refine ⟨fun line b => isFinite_of_parse, fun b c hb hc => ⟨⟨fun h => ?_, ?_⟩,
    fun level => ⟨fun h => ?_, ?_⟩⟩⟩
  · exact json_inj hb hc (b.proper_json.compact_inj c.proper_json h)
  · rintro rfl
    rfl
  · exact json_inj hb hc (b.proper_json.pretty_inj c.proper_json h)
  · rintro rfl
    rfl

/-- The two blocks differ in the kind of one address only and carry marks of JSON in their texts. -/
theorem eq_iff_json_text_eq_kinds : ∃ b c : Block,
    parse "G5 X\"\\\"\",]\" ;\"\\\x01".toList = .ok b ∧
    parse "G5.0 X\"\\\"\",]\" ;\"\\\x01".toList = .ok c ∧
    (b.IsFinite ∧ c.IsFinite) ∧ b.json.compact ≠ c.json.compact ∧
      ∀ level, b.json.pretty level ≠ c.json.pretty level := by
  have hb : parse "G5 X\"\\\"\",]\" ;\"\\\x01".toList =
      .ok ⟨none, .addressed ⟨'G', by decide⟩ (.int32 5),
        [.addressed ⟨'X', by decide⟩ (.string ⟨"\"\\\"\",]\"".toList, by decide⟩)], none,
        some ";\"\\\x01".toList⟩ := by decide +kernel
  have hc : parse "G5.0 X\"\\\"\",]\" ;\"\\\x01".toList =
      .ok ⟨none, .addressed ⟨'G', by decide⟩ (.float32 ⟨0x40A00000⟩),
        [.addressed ⟨'X', by decide⟩ (.string ⟨"\"\\\"\",]\"".toList, by decide⟩)], none,
        some ";\"\\\x01".toList⟩ := by decide +kernel
  have hfinite := eq_iff_json_text_eq.1 _ _ hb
  have hfinite' := eq_iff_json_text_eq.1 _ _ hc
  obtain ⟨hcompact, hpretty⟩ := eq_iff_json_text_eq.2 _ _ hfinite hfinite'
  refine ⟨_, _, hb, hc, ⟨hfinite, hfinite'⟩, fun h => ?_, fun level h => ?_⟩
  · cases hcompact.1 h
  · cases (hpretty level).1 h

/-- Infinite floats have no text of their own. -/
example : (Address.float32 ⟨0x7F800000⟩).json.compact =
    (Address.float32 ⟨0xFF800000⟩).json.compact := by decide +kernel

end Block

end NCBlock
