import ConfigWords.Description.Reading
import ConfigWords.Description.Sheet
import ConfigWords.Proofs.Description.Settings
import ConfigWords.Proofs.Pins.Tables

/-! Descriptions that are read.
Whatever tree a description comes from, its tables agree with themselves and with each other, so
nothing that works on a description has to check them again. One thing is left to check: fields that
stand in a register called NaN may share bits. -/
namespace ConfigWords.Description

/-- What holds of every description that is read. -/
structure Sound (d : Description) : Prop where
  setting_keyed : ∀ e ∈ d.schema.settings.entries, e.2.index = e.1
  index_nodup : (d.schema.toList.map (·.index)).Nodup
  index_nonneg : ∀ s ∈ d.schema.toList, 0 ≤ s.index
  options_ne_nil : ∀ s ∈ d.schema.toList, s.options ≠ []
  options_nodup : ∀ s ∈ d.schema.toList, s.options.Nodup
  default_mem : ∀ s ∈ d.schema.toList, s.default ∈ s.options
  field_keyed : ∀ e ∈ d.layout.fields.entries, e.2.index = e.1
  mapped_iff : ∀ index, d.layout.contains index = true ↔
    ∃ s, d.schema.get? index = some s ∧ s.informational = false
  labels : ∀ index f, d.layout.get? index = some f →
    ∃ s, d.schema.get? index = some s ∧ s.options = f.values.keys
  declared : ∀ f ∈ d.layout.toList, d.registers.contains f.register = true
  width_pos : ∀ f ∈ d.layout.toList, 1 ≤ f.width
  reach : ∀ f ∈ d.layout.toList, f.start + f.width ≤ 32
  value_lt : ∀ f ∈ d.layout.toList, ∀ e ∈ f.values.entries, e.2 < Nat.pow 2 f.width
  pragma_known : ∀ f ∈ d.layout.toList, ∀ label ∈ f.pragmas.keys, label ∈ f.values.keys
  /-- Two fields of one register have no bit in common, unless the register is NaN. -/
  disjoint : ∀ register, register.isNaN = false → d.layout.DisjointIn register
  pins : d.pins.Sound

theorem exists_build_of_readPins {tree : Tree} {pins : PinTables} (read : readPins tree = .ok pins) :
    ∃ groups inputs outputs, PinTables.build groups inputs outputs = .ok pins := by
  unfold readPins at read
  simp only [bind_eq_ok, mapError_eq_ok] at read
  obtain ⟨_, _, groups, _, _, _, _, _, inputs, _, _, _, values, _, _, _, _, _, outputs, _, built⟩ :=
    read
  exact ⟨_, _, _, built⟩

theorem readPins_sound {tree : Tree} {pins : PinTables} (read : readPins tree = .ok pins) :
    pins.Sound := by
  obtain ⟨_, _, _, built⟩ := exists_build_of_readPins read
  exact (PinTables.build_eq_ok_iff.1 built).1

theorem parts_of_ofTree {tree : Tree} {d : Description} (read : ofTree tree = .ok d) :
    (∃ part, readRegisters part = .ok d.registers) ∧
      (∃ part, tree.required "settings" = .ok part ∧
        readSettings d.registers part = .ok (d.schema, d.layout)) ∧
      (∃ part, readVariants part = .ok d.variants) ∧
      ∃ part, tree.optional "pps" (.mapping []) = .ok part ∧ readPins part = .ok d.pins := by
  unfold ofTree at read
  split at read
  · cases read
  · cases read
  · simp only [bind_eq_ok, pure_eq_ok] at read
    obtain ⟨_, _, registers, declared, _, listed, tables, settings, family, _, _, _, variants,
      parts, _, found, pins, routed, rfl⟩ := read
    exact ⟨⟨_, declared⟩, ⟨_, listed, settings⟩, ⟨_, parts⟩, _, found, routed⟩

theorem ofTree_eq_ok {tree : Tree} {d : Description} (read : ofTree tree = .ok d) :
    Matched d.registers (d.schema, d.layout) ∧ d.pins.Sound := by
  obtain ⟨_, ⟨_, _, settings⟩, _, _, _, routed⟩ := parts_of_ofTree read
  exact ⟨readSettings_matched settings, readPins_sound routed⟩

theorem sound_of_matched {d : Description}
    (together : Matched d.registers (d.schema, d.layout)) (pins : d.pins.Sound) : d.Sound := by
  have fields := together.reachable.sound
  have labels : ∀ index f, d.layout.get? index = some f →
      ∃ s, d.schema.get? index = some s ∧ s.options = f.values.keys := by
    intro index f found
    obtain ⟨s, known, _, same⟩ := together.field_iff.1 ⟨f, found, rfl⟩
    exact ⟨s, known, same⟩
  have pragma_known : ∀ f ∈ d.layout.toList, ∀ label ∈ f.pragmas.keys, label ∈ f.values.keys := by
    intro f _ label member
    obtain ⟨e, present, rfl⟩ := List.mem_map.1 member
    exact OrderedMap.contains_eq_true_iff.1 (f.pragma_known e present)
  exact {
    setting_keyed := together.keyed
    index_nodup := together.nodup_index
    index_nonneg := fun s _ => s.index_nonneg
    options_ne_nil := fun s _ => s.options_ne_nil
    options_nodup := fun s _ => s.options_nodup
    default_mem := fun s _ => s.default_mem
    field_keyed := fields.indexed
    mapped_iff := fun _ => together.contains_iff
    labels := labels
    declared := together.declared
    width_pos := fun f _ => f.width_pos
    reach := fun f _ => f.start_add_width_le
    value_lt := fun f _ e member => Word.span_eq f.width ▸ f.value_lt e member
    pragma_known := pragma_known
    disjoint := fun _ named => fields.disjointIn named
    pins := pins }

theorem Sound.not_informational {d : Description} (sound : d.Sound) {index : Int} {f : Field}
    (mapped : d.layout.get? index = some f) : index ∉ d.schema.informationalIndices := by
  intro passed
  obtain ⟨e, member, rfl⟩ := List.mem_map.1 passed
  obtain ⟨present, informational⟩ := List.mem_filter.1 member
  have found : d.schema.get? e.1 = some e.2 := OrderedMap.get?_of_mem present
  have contained : d.layout.contains e.1 = true :=
    OrderedMap.contains_iff_exists.2 ⟨f, mapped⟩
  obtain ⟨s, known, counted⟩ := (sound.mapped_iff e.1).1 contained
  rw [found] at known
  rw [← Option.some.inj known, informational] at counted
  cases counted

theorem sound_of_ofTree {tree : Tree} {d : Description} (read : ofTree tree = .ok d) :
    d.Sound := by
  obtain ⟨together, pins⟩ := ofTree_eq_ok read
  exact sound_of_matched together pins

/-- Every description that is read is sound, whatever the tree. Fields may share bits in the register
NaN and nowhere else, so they are all disjoint where no register of this name is declared. -/
theorem ofTree_sound {tree : Tree} {d : Description} (read : ofTree tree = .ok d) :
    d.Sound ∧
      ((∀ register, d.layout.DisjointIn register) ↔ d.layout.DisjointIn (.float .nan)) ∧
      (d.registers.contains (.float .nan) = false → ∀ register, d.layout.DisjointIn register) := by
  have sound := sound_of_ofTree read
  have fields := (ofTree_eq_ok read).1.reachable.sound
  refine ⟨sound, fields.disjoint_iff, fun undeclared => fields.disjoint_iff.2 ?_⟩
  refine fields.apart.imp_of_mem fun {f g} member _ _ b both => ?_
  have declared := sound.declared f member
  rw [OrderedMap.contains_eq_isSome, d.registers.get?_congr both.1.1,
    ← OrderedMap.contains_eq_isSome, undeclared] at declared
  cases declared

/-! A small family: a field with a label that is written twice, once as a number and once as a text,
a setting without a field, and one pin in one group. -/

open Sheet in
def clockTree : Tree :=
  record [
    ("family", .text "CLOCK"),
    ("registers", record [("CFG", registerTree 0x1FC0FFC8)]),
    ("devices", record [("PART64", record [("pins", .int 64)])]),
    ("settings", .list [
      record [("index", .int 9), ("name", .text "PLL Multiplier"),
        ("default", .text "PLL Multiply by 2"),
        ("field", record [("register", .text "CFG"), ("name", .text "FPLLMULT"),
          ("bit_start", .int 4), ("bit_width", .int 2)]),
        ("options", .mapping [(.int 1, .int 0), (.text "PLL Multiply by 2", .int 1),
          (.text "1", .int 3)]),
        ("pragmas", record [("1", .text "MUL_1")])],
      record [("index", .int 4), ("name", .text "Input Clock"), ("default", .text "8 MHz"),
        ("informational", .bool true), ("options", .list [.text "8 MHz", .int 24])]]),
    ("pps", record [
      ("groups", numbered [(1, .list
        [groupPinTree ⟨0, "RPD2", 64⟩, groupPinTree ⟨1, "RPG8", 100⟩])]),
      ("inputs", .list [record [("signal", .text "INT1"), ("group", .int 1)]]),
      ("output_groups", numbered [(1, .list
        [record [("selector", .int 0), ("signal", .text "U1TX")]])]),
      ("outputs", numbered [(1, .list [.text "RPD2"])])])]

theorem ofTree_sound_clock :
    ∃ d, ofTree clockTree = .ok d ∧ d.layout.fields.keys = [9] ∧ d.Sound ∧
      ∀ register, d.layout.DisjointIn register := by
  obtain ⟨d, read, fields, undeclared⟩ : ∃ d, ofTree clockTree = .ok d ∧
      d.layout.fields.keys = [9] ∧ d.registers.contains (.float .nan) = false :=
    ⟨_, rfl, rfl, rfl⟩
  obtain ⟨sound, _, disjoint⟩ := ofTree_sound read
  exact ⟨d, read, fields, sound, disjoint undeclared⟩

open Sheet in
/-- Bits 1 and 0 of a register called NaN, and its bits 2 and 1. -/
def sharedTree : Tree :=
  let options : Tree := record [("0", .int 0), ("3", .int 3)]
  let field (name : String) (start : Int) : Tree :=
    record [("register", .scalar (.float .nan)), ("name", .text name),
      ("bit_start", .int start), ("bit_width", .int 2)]
  let entry (index : Int) (name : String) (start : Int) : Tree :=
    record [("index", .int index), ("name", .text name), ("default", .text "0"),
      ("field", field name start), ("options", options)]
  record [
    ("family", .text "CLOCK"),
    ("registers", .mapping [(.float .nan, registerTree 0x1FC0FFC8)]),
    ("settings", .list [entry 1 "LOW" 0, entry 2 "HIGH" 1])]

/-- Bit 1 belongs to both fields, and the tree is read all the same. -/
theorem shared_bit_read :
    ∃ d f g, ofTree sharedTree = .ok d ∧ d.layout.toList = [f, g] ∧
      f.Holds (.float .nan) 1 ∧ g.Holds (.float .nan) 1 :=
  ⟨_, _, _, rfl, rfl, ⟨rfl, Nat.zero_le 1, Nat.lt_add_one 1⟩,
    ⟨rfl, Nat.le_refl 1, Nat.lt_add_of_pos_right Nat.two_pos⟩⟩

end ConfigWords.Description
