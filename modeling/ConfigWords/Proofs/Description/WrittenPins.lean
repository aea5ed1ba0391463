import ConfigWords.Description.Pins
import ConfigWords.Proofs.Description.WrittenSettings
import ConfigWords.Proofs.Pins.Tables

/-! Pin tables of a sheet, as they are read.
Groups, inputs and output pins are read to what the sheet says, and the tables that are built of
them contradict nothing. -/
namespace ConfigWords

open ConfigWords.Tree

namespace Sheet

def wholeGroup (s : Sheet) (number : Int) : List Int :=
  ((s.groups.find? fun g => g.number == number).map (·.selectors)).getD []

/-- An input signal; without selectors of its own it accepts its whole group. -/
def inputSignal (s : Sheet) (e : InputEntry) : InputSignal :=
  ⟨e.signal, e.register, e.group, e.selectors.getD (s.wholeGroup e.group), e.description,
    e.category⟩

def offers (s : Sheet) (number : Int) : List OutputValue :=
  ((s.outputGroups.find? fun e => e.1 == number).map (·.2)).getD []

/-- An output pin with the signals of its output group. -/
def outputPin (s : Sheet) (number : Int) (pin : String) : OutputPin :=
  ⟨pin, pin ++ "R", number, s.offers number⟩

def outputPins (s : Sheet) : List OutputPin := s.outputs.flatMap fun e => e.2.map (s.outputPin e.1)

structure PinsWellFormed (s : Sheet) : Prop where
  groups_nodup : (s.groups.map (·.number)).Nodup
  selectors_nodup : ∀ g ∈ s.groups, g.selectors.Nodup
  inputs_nodup : (s.inputs.map (·.signal)).Nodup
  input_group : ∀ e ∈ s.inputs, ∃ g ∈ s.groups, g.number = e.group ∧
    ∀ selectors, e.selectors = some selectors → ∀ n ∈ selectors, n ∈ g.selectors
  outputGroups_nodup : (s.outputGroups.map (·.1)).Nodup
  offers_nodup : ∀ e ∈ s.outputGroups, (e.2.map (·.selector)).Nodup
  numbers_nodup : (s.outputs.map (·.1)).Nodup
  outputs_nodup : (s.outputs.flatMap (·.2)).Nodup
  output_group : ∀ e ∈ s.outputs, ∀ pin ∈ e.2, e.1 ∈ s.outputGroups.map (·.1) ∧
    ∃ g ∈ s.groups, g.number = e.1 ∧ pin ∈ g.pins.map (·.pin)

/-- Every group under the outputs, also one without pins, has an output group. -/
def Offered (s : Sheet) : Prop := ∀ e ∈ s.outputs, e.1 ∈ s.outputGroups.map (·.1)

end Sheet

namespace Description

variable {s : Sheet} {tree : Tree}

theorem readGroupPin_of_written {p : GroupPin} (written : p.WrittenAs tree) :
    readGroupPin tree = .ok p := by
  rw [readGroupPin, written.selector.int, ok_bind, written.pin.text, ok_bind, written.minPins.int]
  rfl

theorem readGroups_of_written {groups : List PinGroup}
    (written : Maps (fun g => .int g.number) (fun g => Lists GroupPin.WrittenAs g.pins) groups
      tree) : readGroups tree = .ok groups := by
  obtain ⟨entries, rfl, forms⟩ := written
  simp only [readGroups, Tree.entries, ok_bind]
  rw [mapM_of_forall₂ id forms, List.map_id]
  rintro g _ ⟨_, _⟩ ⟨rfl, items, rfl, pins⟩
  have read : items.mapM readGroupPin = .ok g.pins := by
    rw [mapM_of_forall₂ id pins, List.map_id]
    exact fun p _ t written => readGroupPin_of_written written
  simp only [Tree.items, ok_bind, read]
  rfl

theorem wholeGroup_eq (wellFormed : s.PinsWellFormed) {g : PinGroup} (member : g ∈ s.groups) :
    s.wholeGroup g.number = g.selectors := by
  rw [Sheet.wholeGroup, find?_of_nodup wellFormed.groups_nodup member]
  rfl

theorem selectorsOf_eq (wellFormed : s.PinsWellFormed) {e : InputEntry} (member : e ∈ s.inputs) :
    selectorsOf s.groups e.group = s.wholeGroup e.group := by
  obtain ⟨g, grouped, same, _⟩ := wellFormed.input_group e member
  have backwards : (s.groups.reverse.map (·.number)).Nodup := by
    rw [List.map_reverse, List.nodup_reverse]
    exact wellFormed.groups_nodup
  rw [selectorsOf, ← same, wholeGroup_eq wellFormed grouped,
    find?_of_nodup backwards (List.mem_reverse.2 grouped)]

theorem readInput_of_written (wellFormed : s.PinsWellFormed) {e : InputEntry}
    (member : e ∈ s.inputs) (written : e.WrittenAs tree) :
    readInput s.groups tree = .ok (s.inputSignal e) := by
  obtain ⟨entries, rfl, ⟨value, found, selectors, own, items, rfl, forms⟩ | ⟨missing, none_own⟩⟩ :=
    written.selectors
  · have read : items.mapM Tree.integer = .ok selectors := by
      rw [mapM_of_forall₂ id forms, List.map_id]
      rintro n _ _ rfl
      rfl
    simp only [readInput, written.group.int, ok_bind, Tree.entries, found, Tree.items, read,
      written.signal.text, written.register.text, written.description.text, written.category.text,
      Sheet.inputSignal, own]
    rfl
  · simp only [readInput, written.group.int, ok_bind, Tree.entries, missing,
      written.signal.text, written.register.text, written.description.text, written.category.text,
      Sheet.inputSignal, none_own, selectorsOf_eq wellFormed member]
    rfl

theorem readOutputValue_of_written {o : OutputValue} (written : o.WrittenAs tree) :
    readOutputValue tree = .ok o := by
  rw [readOutputValue, written.selector.int, ok_bind, written.signal.text, ok_bind,
    written.description.text, ok_bind, written.category.text]
  rfl

theorem readOutputGroups_of_written {groups : List (Int × List OutputValue)}
    (written : Maps (fun e => .int e.1) (fun e => Lists OutputValue.WrittenAs e.2) groups tree) :
    readOutputGroups tree = .ok (OrderedMap.ofList groups) := by
  obtain ⟨entries, rfl, forms⟩ := written
  simp only [readOutputGroups, Tree.entries, ok_bind]
  rw [mapM_of_forall₂ id forms, List.map_id]
  · rfl
  rintro e _ ⟨_, _⟩ ⟨rfl, items, rfl, values⟩
  have read : items.mapM readOutputValue = .ok e.2 := by
    rw [mapM_of_forall₂ id values, List.map_id]
    exact fun o _ t written => readOutputValue_of_written written
  simp only [Tree.items, ok_bind, read]
  rfl

theorem get?_outputGroups (wellFormed : s.PinsWellFormed) (number : Int) :
    (OrderedMap.ofList s.outputGroups).get? number =
      (s.outputGroups.find? fun e => e.1 == number).map (·.2) := by
  rw [OrderedMap.get?, OrderedMap.entries_ofList_of_nodup wellFormed.outputGroups_nodup]

theorem readOutputPins_of_written (wellFormed : s.PinsWellFormed) {number : Int}
    {pins : List String} (offered : number ∈ s.outputGroups.map (·.1))
    (written : Lists (fun pin value => value = .text pin) pins tree) :
    readOutputPins (OrderedMap.ofList s.outputGroups) (.int number) tree =
      .ok (pins.map (s.outputPin number)) := by
  obtain ⟨e, member, rfl⟩ := List.mem_map.1 offered
  obtain ⟨items, rfl, forms⟩ := written
  have listed : (OrderedMap.ofList s.outputGroups).get? e.1 = some (s.offers e.1) := by
    rw [get?_outputGroups wellFormed, Sheet.offers,
      find?_of_nodup wellFormed.outputGroups_nodup member]
    rfl
  have number : (Tree.scalar (.int e.1)).integer = .ok e.1 := rfl
  simp only [readOutputPins, number, ok_bind, listed, Tree.items]
  apply mapM_of_forall₂ (s.outputPin e.1) forms
  rintro pin _ _ rfl
  rfl

theorem readOutputPins_of_missing (wellFormed : s.PinsWellFormed) {number : Int}
    (missing : number ∉ s.outputGroups.map (·.1)) :
    readOutputPins (OrderedMap.ofList s.outputGroups) (.int number) tree =
      .error (.ofPins (.noOutputSignals number)) := by
  have unknown : s.outputGroups.find? (fun e => e.1 == number) = none := by
    apply List.find?_eq_none.2
    intro e member same
    exact missing (List.mem_map.2 ⟨e, member, by simpa using same⟩)
  have number : (Tree.scalar (.int number)).integer = .ok number := rfl
  simp only [readOutputPins, number, ok_bind, get?_outputGroups wellFormed, unknown]
  rfl

theorem mem_outputPins_iff {p : OutputPin} :
    p ∈ s.outputPins ↔ ∃ e ∈ s.outputs, ∃ pin ∈ e.2, s.outputPin e.1 pin = p := by
  simp [Sheet.outputPins]

theorem map_pin_outputPins : s.outputPins.map (·.pin) = s.outputs.flatMap (·.2) := by
  simp [Sheet.outputPins, List.map_flatMap, Function.comp_def, Sheet.outputPin]

section Tables

variable {t : PinTables}

theorem sound_of_wellFormed (wellFormed : s.PinsWellFormed)
    (groups : t.groups.entries = s.groups.map fun g => (g.number, g))
    (inputs : t.inputs.entries = (s.inputs.map s.inputSignal).map fun i => (i.signal, i))
    (outputs : t.outputs.entries = s.outputPins.map fun p => (p.pin, p)) : t.Sound := by
  have found : ∀ g ∈ s.groups, t.group? g.number = some g := fun g member =>
    OrderedMap.get?_of_mem (groups ▸ List.mem_map.2 ⟨g, member, rfl⟩)
  have offers : ∀ e ∈ s.outputGroups, s.offers e.1 = e.2 := fun e member => by
    rw [Sheet.offers, find?_of_nodup wellFormed.outputGroups_nodup member]
    rfl
  constructor
  case group_keyed => exact PinTables.key_of_entries groups
  case input_keyed => exact PinTables.key_of_entries inputs
  case output_keyed => exact PinTables.key_of_entries outputs
  case selectors_nodup =>
    rw [PinTables.values_of_entries groups]
    exact wellFormed.selectors_nodup
  case input_group =>
    rw [PinTables.values_of_entries inputs]
    intro i member
    obtain ⟨e, written, rfl⟩ := List.mem_map.1 member
    obtain ⟨g, grouped, same, inside⟩ := wellFormed.input_group e written
    have whole := wholeGroup_eq wellFormed grouped
    rw [same] at whole
    refine ⟨g, (congrArg t.group? same.symm).trans (found g grouped), ?_⟩
    cases own : e.selectors with
    | none => simp [Sheet.inputSignal, own, whole]
    | some selectors => simpa [Sheet.inputSignal, own] using inside selectors own
  case output_group =>
    rw [PinTables.values_of_entries outputs]
    intro p member
    obtain ⟨e, written, pin, listed, rfl⟩ := mem_outputPins_iff.1 member
    obtain ⟨_, g, grouped, same, placed⟩ := wellFormed.output_group e written pin listed
    exact ⟨g, same ▸ found g grouped, placed⟩
  case outputs_nodup =>
    rw [PinTables.values_of_entries outputs]
    intro p member
    obtain ⟨e, written, pin, listed, rfl⟩ := mem_outputPins_iff.1 member
    obtain ⟨offered, _⟩ := wellFormed.output_group e written pin listed
    obtain ⟨o, present, same⟩ := List.mem_map.1 offered
    rw [Sheet.outputPin, ← same, offers o present]
    exact wellFormed.offers_nodup o present

theorem build_of_wellFormed (wellFormed : s.PinsWellFormed) :
    ∃ t, PinTables.build s.groups (s.inputs.map s.inputSignal) s.outputPins = .ok t ∧
      t.groups.entries = (s.groups.map fun g => (g.number, g)) ∧
      t.inputs.entries = ((s.inputs.map s.inputSignal).map fun i => (i.signal, i)) ∧
      t.outputs.entries = s.outputPins.map fun p => (p.pin, p) := by
  have signals : ((s.inputs.map s.inputSignal).map (·.signal)).Nodup := by
    simpa [List.map_map, Function.comp_def, Sheet.inputSignal] using wellFormed.inputs_nodup
  have pins : (s.outputPins.map (·.pin)).Nodup :=
    map_pin_outputPins ▸ wellFormed.outputs_nodup
  obtain ⟨gs, groups⟩ := OrderedMap.exists_indexed wellFormed.groups_nodup
  obtain ⟨is, inputs⟩ := OrderedMap.exists_indexed signals
  obtain ⟨os, outputs⟩ := OrderedMap.exists_indexed pins
  have sound : PinTables.Sound ⟨gs, is, os⟩ := sound_of_wellFormed wellFormed groups inputs outputs
  exact ⟨⟨gs, is, os⟩, PinTables.build_eq_ok_iff.2 ⟨sound, groups, inputs, outputs⟩, groups, inputs,
    outputs⟩

end Tables

def OutputsWritten (e : Int × List String) (entry : Scalar × Tree) : Prop :=
  entry.1 = .int e.1 ∧ Lists (fun pin value => value = .text pin) e.2 entry.2

theorem readPins_up_to_outputs (wellFormed : s.PinsWellFormed) (written : s.PinsWrittenAs tree) :
    ∃ entries, List.Forall₂ OutputsWritten s.outputs entries ∧ readPins tree = (do
      let outputs ← entries.mapM fun e =>
        readOutputPins (OrderedMap.ofList s.outputGroups) e.1 e.2
      (PinTables.build s.groups (s.inputs.map s.inputSignal) outputs.flatten).mapError .ofPins) := by
  obtain ⟨_, found_groups, groups⟩ : ∃ value, tree.optional "groups" (.mapping []) = .ok value ∧
      readGroups value = .ok s.groups :=
    (written.groups.imp fun _ => readGroups_of_written).optional fun none => by rw [none]; rfl
  obtain ⟨_, found_inputs, items, rfl, inputs⟩ : ∃ value,
      tree.optional "inputs" (.list []) = .ok value ∧ Lists InputEntry.WrittenAs s.inputs value :=
    written.inputs.optional fun none => none ▸ ⟨[], rfl, .nil⟩
  obtain ⟨_, found_values, values⟩ : ∃ value,
      tree.optional "output_groups" (.mapping []) = .ok value ∧
        readOutputGroups value = .ok (OrderedMap.ofList s.outputGroups) :=
    (written.outputGroups.imp fun _ => readOutputGroups_of_written).optional
      fun none => by rw [none]; rfl
  obtain ⟨_, found_outputs, entries, rfl, outputs⟩ : ∃ value,
      tree.optional "outputs" (.mapping []) = .ok value ∧
        ∃ entries, value = .mapping entries ∧ List.Forall₂ OutputsWritten s.outputs entries :=
    written.outputs.optional fun none => none ▸ ⟨[], rfl, .nil⟩
  have signals : items.mapM (readInput s.groups) = .ok (s.inputs.map s.inputSignal) :=
    mapM_of_forall₂ s.inputSignal inputs fun _ member _ => readInput_of_written wellFormed member
  refine ⟨entries, outputs, ?_⟩
  simp only [readPins, found_groups, ok_bind, groups, found_inputs, Tree.items, signals,
    found_values, values, found_outputs, Tree.entries]

/-- The tables of a sheet are read where every group under the outputs has an output group. -/
theorem readPins_of_written (wellFormed : s.PinsWellFormed) (offered : s.Offered)
    (written : s.PinsWrittenAs tree) :
    ∃ t, readPins tree = .ok t ∧
      t.groups.entries = (s.groups.map fun g => (g.number, g)) ∧
      t.inputs.entries = ((s.inputs.map s.inputSignal).map fun i => (i.signal, i)) ∧
      t.outputs.entries = s.outputPins.map fun p => (p.pin, p) := by
  obtain ⟨t, built, tables⟩ := build_of_wellFormed wellFormed
  obtain ⟨entries, forms, read⟩ := readPins_up_to_outputs wellFormed written
  refine ⟨t, ?_, tables⟩
  rw [read, mapM_of_forall₂ (fun e => e.2.map (s.outputPin e.1)) forms, ok_bind,
    ← List.flatMap_def]
  · exact mapError_eq_ok.2 built
  · rintro e member ⟨_, _⟩ ⟨rfl, pins⟩
    exact readOutputPins_of_written wellFormed (offered e member) pins

theorem offered_of_readPins (wellFormed : s.PinsWellFormed) (written : s.PinsWrittenAs tree)
    {t : PinTables} (accepted : readPins tree = .ok t) : s.Offered := by
  obtain ⟨entries, forms, read⟩ := readPins_up_to_outputs wellFormed written
  -- The groups under the outputs are read one by one, with or without pins.
  obtain ⟨outputs, each, _⟩ := bind_eq_ok.1 (read.symm.trans accepted)
  intro e member
  by_contra missing
  obtain ⟨⟨_, pins⟩, present, rfl, _⟩ := exists_mem_of_forall₂ forms member
  obtain ⟨_, _, done⟩ := exists_mem_of_forall₂ (mapM_eq_ok_iff.1 each) present
  rw [readOutputPins_of_missing wellFormed missing] at done
  cases done

end Description
end ConfigWords
