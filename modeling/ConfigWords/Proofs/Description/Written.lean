import ConfigWords.Description.Sheet
import ConfigWords.Proofs.Description.Keys
import ConfigWords.Proofs.OrderedMap

/-! The trees that a sheet may be written as.
Keys come in any order and other keys may stand between them. A key with a default may be left out
where the sheet says the default, and an input without selectors of its own has no key for them.
`Sheet.toTree` is one of these trees. -/
namespace ConfigWords

namespace Tree

section Rows

variable {α : Type}

/-- A list of one tree for each item. -/
def Lists (form : α → Tree → Prop) (items : List α) (tree : Tree) : Prop :=
  ∃ trees, tree = .list trees ∧ List.Forall₂ form items trees

/-- A mapping of one entry for each item, in their order. -/
def Maps (key : α → Scalar) (form : α → Tree → Prop) (items : List α) (tree : Tree) : Prop :=
  ∃ entries, tree = .mapping entries ∧
    List.Forall₂ (fun a e => e.1 = key a ∧ form a e.2) items entries

end Rows

end Tree

open ConfigWords.Tree

structure PartEntry.WrittenAs (p : PartEntry) (tree : Tree) : Prop where
  pins : tree.Has "pins" (· = .int p.pins)
  flashKb : tree.HasOr "flash_kb" (· = .int p.flashKb) (p.flashKb = 0)
  ramKb : tree.HasOr "ram_kb" (· = .int p.ramKb) (p.ramKb = 0)

structure Choices.PlacedAs (register field : String) (start width : Int) (tree : Tree) : Prop where
  register : tree.Has "register" (· = .text register)
  name : tree.Has "name" (· = .text field)
  start : tree.Has "bit_start" (· = .int start)
  width : tree.Has "bit_width" (· = .int width)

inductive Choices.WrittenAs : Choices → Tree → Prop
  | mapped {register field : String} {start width : Int} {values : List (String × Int)}
      {pragmas : List (String × String)} {tree : Tree}
      (counted : tree.HasOr "informational" (· = .bool false) True)
      (placed : tree.Has "field" (PlacedAs register field start width))
      (options : tree.Has "options"
        (Maps (fun e => .text e.1) (fun e value => value = .int e.2) values))
      (texts : tree.HasOr "pragmas"
        (Maps (fun e => .text e.1) (fun e value => value = .text e.2) pragmas) (pragmas = [])) :
      WrittenAs (.mapped register field start width values pragmas) tree
  | informational {options : List String} {tree : Tree}
      (informational : tree.Has "informational" (· = .bool true))
      (free : tree.HasOr "field" (· = .null) True)
      (listed : tree.Has "options" (Lists (fun option value => value = .text option) options)) :
      WrittenAs (.informational options) tree

structure SettingEntry.WrittenAs (e : SettingEntry) (tree : Tree) : Prop where
  index : tree.Has "index" (· = .int e.index)
  name : tree.Has "name" (· = .text e.name)
  category : tree.HasOr "category" (· = .text e.category) (e.category = "General")
  description : tree.HasOr "description" (· = .text e.description) (e.description = "")
  default : tree.Has "default" (· = .text e.default)
  choices : e.choices.WrittenAs tree

structure GroupPin.WrittenAs (p : GroupPin) (tree : Tree) : Prop where
  selector : tree.Has "selector" (· = .int p.selector)
  pin : tree.Has "pin" (· = .text p.pin)
  minPins : tree.HasOr "min_pins" (· = .int p.minPins) (p.minPins = 0)

structure InputEntry.WrittenAs (e : InputEntry) (tree : Tree) : Prop where
  signal : tree.Has "signal" (· = .text e.signal)
  register : tree.HasOr "register" (· = .text e.register) (e.register = e.signal ++ "R")
  group : tree.Has "group" (· = .int e.group)
  selectors : tree.HasOr "selectors"
    (fun value => ∃ selectors, e.selectors = some selectors ∧
      Lists (fun n item => item = .int n) selectors value) (e.selectors = none)
  category : tree.HasOr "category" (· = .text e.category) (e.category = "Other")
  description : tree.HasOr "description" (· = .text e.description) (e.description = "")

structure OutputValue.WrittenAs (o : OutputValue) (tree : Tree) : Prop where
  selector : tree.Has "selector" (· = .int o.selector)
  signal : tree.Has "signal" (· = .text o.signal)
  category : tree.HasOr "category" (· = .text o.category) (o.category = "Other")
  description : tree.HasOr "description" (· = .text o.description) (o.description = "")

namespace Sheet

structure PinsWrittenAs (s : Sheet) (tree : Tree) : Prop where
  groups : tree.HasOr "groups"
    (Maps (fun g => .int g.number) (fun g => Lists GroupPin.WrittenAs g.pins) s.groups)
    (s.groups = [])
  inputs : tree.HasOr "inputs" (Lists InputEntry.WrittenAs s.inputs) (s.inputs = [])
  outputGroups : tree.HasOr "output_groups"
    (Maps (fun e => .int e.1) (fun e => Lists OutputValue.WrittenAs e.2) s.outputGroups)
    (s.outputGroups = [])
  outputs : tree.HasOr "outputs"
    (Maps (fun e => .int e.1) (fun e => Lists (fun pin value => value = .text pin) e.2) s.outputs)
    (s.outputs = [])

structure WrittenAs (s : Sheet) (tree : Tree) : Prop where
  family : tree.Has "family" (· = .text s.family)
  registers : tree.Has "registers"
    (Maps (fun r => .text r.1) (fun r entry => entry.Has "address" (· = .int r.2)) s.registers)
  parts : tree.HasOr "devices" (Maps (fun p => .text p.part) PartEntry.WrittenAs s.parts)
    (s.parts = [])
  settings : tree.Has "settings" (Lists SettingEntry.WrittenAs s.settings)
  pins : tree.HasOr "pps" s.PinsWrittenAs
    (s.groups = [] ∧ s.inputs = [] ∧ s.outputGroups = [] ∧ s.outputs = [])

/-! The tree that has every key. -/

section Canonical

theorem forall₂_map_self {α β : Type} {form : α → β → Prop} {tree : α → β} (items : List α)
    (each : ∀ a, form a (tree a)) : List.Forall₂ form items (items.map tree) := by
  rw [List.forall₂_map_right_iff, List.forall₂_same]
  exact fun a _ => each a

theorem lists_map {α : Type} {form : α → Tree → Prop} {tree : α → Tree} (items : List α)
    (each : ∀ a, form a (tree a)) : Lists form items (.list (items.map tree)) :=
  ⟨_, rfl, forall₂_map_self items each⟩

theorem maps_record {α : Type} {form : α → Tree → Prop} {name : α → String} {tree : α → Tree}
    (items : List α) (each : ∀ a, form a (tree a)) :
    Maps (fun a => .text (name a)) form items (record (items.map fun a => (name a, tree a))) := by
  rw [record, List.map_map]
  exact ⟨_, rfl, forall₂_map_self items fun a => ⟨rfl, each a⟩⟩

theorem maps_numbered {α : Type} {form : α → Tree → Prop} {number : α → Int} {tree : α → Tree}
    (items : List α) (each : ∀ a, form a (tree a)) :
    Maps (fun a => .int (number a)) form items
      (numbered (items.map fun a => (number a, tree a))) := by
  rw [numbered, List.map_map]
  exact ⟨_, rfl, forall₂_map_self items fun a => ⟨rfl, each a⟩⟩

theorem writtenAs_partTree (p : PartEntry) : p.WrittenAs (partTree p) where
  pins := ⟨_, _, rfl, rfl, rfl⟩
  flashKb := ⟨_, rfl, .inl ⟨_, rfl, rfl⟩⟩
  ramKb := ⟨_, rfl, .inl ⟨_, rfl, rfl⟩⟩

theorem writtenAs_settingTree (e : SettingEntry) : e.WrittenAs (settingTree e) := by
  obtain ⟨index, name, category, description, default, choices⟩ := e
  constructor
  · exact ⟨_, _, rfl, rfl, rfl⟩
  · exact ⟨_, _, rfl, rfl, rfl⟩
  · exact ⟨_, rfl, .inl ⟨_, rfl, rfl⟩⟩
  · exact ⟨_, rfl, .inl ⟨_, rfl, rfl⟩⟩
  · exact ⟨_, _, rfl, rfl, rfl⟩
  · cases choices with
    | mapped register field start width values pragmas =>
      refine .mapped ⟨_, rfl, .inr ⟨rfl, trivial⟩⟩ ⟨_, _, rfl, rfl, ?_⟩
        ⟨_, _, rfl, rfl, maps_record values fun _ => rfl⟩
        ⟨_, rfl, .inl ⟨_, rfl, maps_record pragmas fun _ => rfl⟩⟩
      exact ⟨⟨_, _, rfl, rfl, rfl⟩, ⟨_, _, rfl, rfl, rfl⟩, ⟨_, _, rfl, rfl, rfl⟩,
        ⟨_, _, rfl, rfl, rfl⟩⟩
    | informational options =>
      exact .informational ⟨_, _, rfl, rfl, rfl⟩ ⟨_, rfl, .inr ⟨rfl, trivial⟩⟩
        ⟨_, _, rfl, rfl, lists_map options fun _ => rfl⟩

theorem writtenAs_groupPinTree (p : GroupPin) : p.WrittenAs (groupPinTree p) where
  selector := ⟨_, _, rfl, rfl, rfl⟩
  pin := ⟨_, _, rfl, rfl, rfl⟩
  minPins := ⟨_, rfl, .inl ⟨_, rfl, rfl⟩⟩

theorem writtenAs_inputTree (e : InputEntry) : e.WrittenAs (inputTree e) := by
  obtain ⟨signal, register, group, selectors, category, description⟩ := e
  constructor
  · exact ⟨_, _, rfl, rfl, rfl⟩
  · exact ⟨_, rfl, .inl ⟨_, rfl, rfl⟩⟩
  · exact ⟨_, _, rfl, rfl, rfl⟩
  · cases selectors with
    | none => exact ⟨_, rfl, .inr ⟨rfl, rfl⟩⟩
    | some selectors =>
      exact ⟨_, rfl, .inl ⟨_, rfl, selectors, rfl, lists_map selectors fun _ => rfl⟩⟩
  · exact ⟨_, rfl, .inl ⟨_, rfl, rfl⟩⟩
  · exact ⟨_, rfl, .inl ⟨_, rfl, rfl⟩⟩

theorem writtenAs_outputTree (o : OutputValue) : o.WrittenAs (outputTree o) where
  selector := ⟨_, _, rfl, rfl, rfl⟩
  signal := ⟨_, _, rfl, rfl, rfl⟩
  category := ⟨_, rfl, .inl ⟨_, rfl, rfl⟩⟩
  description := ⟨_, rfl, .inl ⟨_, rfl, rfl⟩⟩

theorem writtenAs_toTree (s : Sheet) : s.WrittenAs s.toTree where
  family := ⟨_, _, rfl, rfl, rfl⟩
  registers := ⟨_, _, rfl, rfl, maps_record s.registers fun _ => ⟨_, _, rfl, rfl, rfl⟩⟩
  parts := ⟨_, rfl, .inl ⟨_, rfl, maps_record s.parts writtenAs_partTree⟩⟩
  settings := ⟨_, _, rfl, rfl, lists_map s.settings writtenAs_settingTree⟩
  pins := ⟨_, rfl, .inl ⟨_, rfl, {
    groups := ⟨_, rfl, .inl ⟨_, rfl, maps_numbered s.groups fun g =>
      lists_map g.pins writtenAs_groupPinTree⟩⟩
    inputs := ⟨_, rfl, .inl ⟨_, rfl, lists_map s.inputs writtenAs_inputTree⟩⟩
    outputGroups := ⟨_, rfl, .inl ⟨_, rfl, maps_numbered s.outputGroups fun e =>
      lists_map e.2 writtenAs_outputTree⟩⟩
    outputs := ⟨_, rfl, .inl ⟨_, rfl, maps_numbered s.outputs fun e =>
      lists_map e.2 fun _ => rfl⟩⟩ }⟩⟩

end Canonical

end Sheet
end ConfigWords
