import ConfigWords.Description.Reading
import ConfigWords.Proofs.Description.WrittenPins

/-! Sheets that are accepted.
However a well-formed sheet is written, it is read to the tables that it says, entry by entry and in
its order. One more thing is asked of it: a group under the outputs has an output group, even where
no pin is listed. -/
namespace ConfigWords

open ConfigWords.Tree

namespace Sheet

structure WellFormed (s : Sheet) : Prop extends PinsWellFormed s where
  registers_ne_nil : s.registers ≠ []
  registers_nodup : (s.registers.map (·.1)).Nodup
  parts_nodup : (s.parts.map (·.part)).Nodup
  index_nodup : (s.settings.map (·.index)).Nodup
  settings : ∀ e ∈ s.settings, e.WellFormed s.registers
  apart : (s.settings.filterMap SettingEntry.field?).Pairwise Field.Draft.Apart

/-- The description has what the sheet says, in the sheet's order. -/
structure Describes (s : Sheet) (d : Description) : Prop where
  family : d.family = s.family
  registers : d.registers.entries =
    s.registers.map fun r => (.text r.1, { name := .text r.1, address := r.2 })
  variants : d.variants.entries =
    s.parts.map fun p => (.text p.part, ⟨.text p.part, p.pins, p.flashKb, p.ramKb⟩)
  tables : Description.Records s.settings (d.schema, d.layout)
  groups : d.pins.groups.entries = s.groups.map fun g => (g.number, g)
  inputs : d.pins.inputs.entries = (s.inputs.map s.inputSignal).map fun i => (i.signal, i)
  outputs : d.pins.outputs.entries = s.outputPins.map fun p => (p.pin, p)

end Sheet

namespace Description

variable {s : Sheet} {tree : Tree}

theorem ofTree_up_to_pins (wellFormed : s.WellFormed) (written : s.WrittenAs tree) :
    ∃ registers variants schema layout value, s.PinsWrittenAs value ∧
      registers.entries =
        (s.registers.map fun r => (.text r.1, { name := .text r.1, address := r.2 })) ∧
      variants.entries =
        (s.parts.map fun p => (.text p.part, ⟨.text p.part, p.pins, p.flashKb, p.ramKb⟩)) ∧
      Records s.settings (schema, layout) ∧
      ofTree tree = (do
        let pins ← readPins value
        return ⟨s.family, registers, variants, schema, layout, pins⟩) := by
  obtain ⟨_, found_registers, registers⟩ := written.registers.required
  obtain ⟨_, found_settings, trees, rfl, entries⟩ := written.settings.required
  obtain ⟨_, found_parts, parts⟩ : ∃ value, tree.optional "devices" (.mapping []) = .ok value ∧
      readVariants value = .ok _ :=
    (written.parts.imp fun _ => readVariants_of_written).optional fun none => by rw [none]; rfl
  obtain ⟨value, found_pins, pins⟩ : ∃ value, tree.optional "pps" (.mapping []) = .ok value ∧
      s.PinsWrittenAs value :=
    written.pins.optional fun ⟨groups, inputs, values, outputs⟩ => {
      groups := ⟨[], rfl, .inr ⟨rfl, groups⟩⟩
      inputs := ⟨[], rfl, .inr ⟨rfl, inputs⟩⟩
      outputGroups := ⟨[], rfl, .inr ⟨rfl, values⟩⟩
      outputs := ⟨[], rfl, .inr ⟨rfl, outputs⟩⟩ }
  have declared : ∀ r ∈ s.registers, (OrderedMap.ofList (s.registers.map fun r =>
      (Scalar.text r.1, { name := .text r.1, address := r.2 : Register }))).contains
        (.text r.1) = true := by
    intro r member
    rw [OrderedMap.contains, OrderedMap.entries_ofList_named wellFormed.registers_nodup]
    exact List.any_eq_true.2 ⟨_, List.mem_map_of_mem member, BEq.rfl⟩
  obtain ⟨⟨schema, layout⟩, run, records⟩ := foldlM_addSetting_of_written declared entries
    wellFormed.settings wellFormed.index_nodup wellFormed.apart
  have root : ∃ entries, tree = .mapping entries := by
    obtain ⟨entries, _, rfl, _⟩ := written.family
    exact ⟨entries, rfl⟩
  obtain ⟨_, rfl⟩ := root
  refine ⟨_, _, schema, layout, value, pins,
    OrderedMap.entries_ofList_named wellFormed.registers_nodup,
    OrderedMap.entries_ofList_named wellFormed.parts_nodup, records, ?_⟩
  simp only [ofTree, found_registers, ok_bind,
    readRegisters_of_written wellFormed.registers_ne_nil registers, found_settings, readSettings,
    Tree.items, run, written.family.text, found_parts, parts, found_pins]

/-- However a well-formed sheet is written, it is read exactly if every group under its outputs has
an output group; and then to what it says. -/
theorem ofTree_of_written (wellFormed : s.WellFormed) (written : s.WrittenAs tree) :
    ((∃ d, ofTree tree = .ok d) ↔ s.Offered) ∧ ∀ d, ofTree tree = .ok d → s.Describes d := by
  obtain ⟨registers, variants, schema, layout, value, pins, declared, parts, records, read⟩ :=
    ofTree_up_to_pins wellFormed written
  have offered : ∀ d, ofTree tree = .ok d → s.Offered := by
    intro d accepted
    obtain ⟨t, tables, _⟩ := bind_eq_ok.1 (read.symm.trans accepted)
    exact offered_of_readPins wellFormed.toPinsWellFormed pins tables
  constructor
  · constructor
    · rintro ⟨d, accepted⟩
      exact offered d accepted
    · intro offered
      obtain ⟨t, tables, _⟩ := readPins_of_written wellFormed.toPinsWellFormed offered pins
      exact ⟨_, by rw [read, tables]; rfl⟩
  · intro d accepted
    obtain ⟨t, tables, groups, inputs, outputs⟩ :=
      readPins_of_written wellFormed.toPinsWellFormed (offered d accepted) pins
    rw [read, tables] at accepted
    cases accepted
    exact {
      family := rfl
      registers := declared
      variants := parts
      tables := records
      groups := groups
      inputs := inputs
      outputs := outputs }

/-! A sheet with a mapped setting, an informational one, and an input that accepts its whole group;
and the same sheet with one more group under its outputs, without a pin. -/

def clockSheet : Sheet where
  family := "CLOCK"
  registers := [("CFG", 0x1FC0FFC8)]
  parts := [⟨"PART64", 64, 0, 0⟩]
  settings := [
    ⟨9, "PLL Multiplier", "General", "", "PLL Multiply by 2",
      .mapped "CFG" "FPLLMULT" 4 2 [("PLL Multiply by 1", 0), ("PLL Multiply by 2", 1)]
        [("PLL Multiply by 1", "MUL_1")]⟩,
    ⟨4, "Input Clock", "General", "", "8 MHz", .informational ["8 MHz", "24 MHz"]⟩]
  groups := [⟨1, [⟨0, "RPD2", 64⟩, ⟨1, "RPG8", 100⟩]⟩]
  inputs := [⟨"INT1", "INT1R", 1, none, "Other", ""⟩]
  outputGroups := [(1, [⟨0, "U1TX", "", "Other"⟩])]
  outputs := [(1, ["RPD2"])]

def idleOutputs : Sheet := { clockSheet with outputs := [(1, ["RPD2"]), (7, [])] }

theorem wellFormed_clockSettings :
    ∀ e ∈ clockSheet.settings, e.WellFormed clockSheet.registers := by
  rw [clockSheet, List.forall_mem_cons, List.forall_mem_singleton]
  constructor
  · exact ⟨by decide, by decide, by decide, by decide,
      .mapped (by decide) (by decide) (by decide) (by decide) (by decide) (by decide) (by decide)⟩
  · exact ⟨by decide, by decide, by decide, by decide, .informational⟩

theorem wellFormed_clockSheet : clockSheet.WellFormed where
  groups_nodup := by decide
  selectors_nodup := by decide
  inputs_nodup := by decide
  input_group := by
    rw [clockSheet, List.forall_mem_singleton]
    exact ⟨_, .head _, rfl, fun _ none => by cases none⟩
  outputGroups_nodup := by decide
  offers_nodup := by decide
  numbers_nodup := by decide
  outputs_nodup := by decide
  output_group := by decide
  registers_ne_nil := by decide
  registers_nodup := by decide
  parts_nodup := by decide
  index_nodup := by decide
  settings := wellFormed_clockSettings
  apart := List.pairwise_singleton _ _

theorem ofTree_of_written_clockSheet :
    ∃ d, ofTree clockSheet.toTree = .ok d ∧ clockSheet.Describes d := by
  have read := ofTree_of_written wellFormed_clockSheet clockSheet.writtenAs_toTree
  have offered : clockSheet.Offered := by
    unfold Sheet.Offered
    decide
  obtain ⟨d, accepted⟩ := read.1.2 offered
  exact ⟨d, accepted, read.2 d accepted⟩

/-- The group without a pin contradicts nothing but has no signals. -/
theorem idleOutputs_refused :
    idleOutputs.WellFormed ∧ idleOutputs.WrittenAs idleOutputs.toTree ∧
      ofTree idleOutputs.toTree = .error (.pins (.noOutputSignals 7)) := by
  have sheet : idleOutputs.WellFormed := { wellFormed_clockSheet with
    numbers_nodup := by decide
    outputs_nodup := by decide
    output_group := by decide }
  exact ⟨sheet, idleOutputs.writtenAs_toTree, rfl⟩

end Description
end ConfigWords
