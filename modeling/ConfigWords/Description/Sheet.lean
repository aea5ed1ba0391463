import ConfigWords.Pins.Tables
import ConfigWords.Tree

/-! Descriptions as they are written down: plain entries without any check.
`Sheet.toTree` lays the entries out as the tree that a description is read from. -/
namespace ConfigWords

structure PartEntry where
  part : String
  pins : Int
  flashKb : Int
  ramKb : Int

inductive Choices
  | mapped (register field : String) (start width : Int) (values : List (String × Int))
      (pragmas : List (String × String))
  | informational (options : List String)

structure SettingEntry where
  index : Int
  name : String
  category : String
  description : String
  default : String
  choices : Choices

/-- One input signal; without selectors it accepts every pin of its group. -/
structure InputEntry where
  signal : String
  register : String
  group : Int
  selectors : Option (List Int)
  category : String
  description : String

structure Sheet where
  family : String
  registers : List (String × Int)
  parts : List PartEntry
  settings : List SettingEntry
  groups : List PinGroup
  inputs : List InputEntry
  outputGroups : List (Int × List OutputValue)
  outputs : List (Int × List String)

namespace Sheet

def record (fields : List (String × Tree)) : Tree :=
  .mapping (fields.map fun e => (.text e.1, e.2))

def numbered (entries : List (Int × Tree)) : Tree :=
  .mapping (entries.map fun e => (.int e.1, e.2))

def registerTree (address : Int) : Tree := record [("address", .int address)]

def partTree (p : PartEntry) : Tree :=
  record [("pins", .int p.pins), ("flash_kb", .int p.flashKb), ("ram_kb", .int p.ramKb)]

def choiceFields : Choices → List (String × Tree)
  | .mapped register field start width values pragmas =>
    [("field", record [("register", .text register), ("name", .text field),
        ("bit_start", .int start), ("bit_width", .int width)]),
      ("options", record (values.map fun e => (e.1, .int e.2))),
      ("pragmas", record (pragmas.map fun e => (e.1, .text e.2)))]
  | .informational options =>
    [("informational", .bool true), ("options", .list (options.map Tree.text))]

def settingTree (s : SettingEntry) : Tree :=
  record ([("index", .int s.index), ("name", .text s.name), ("category", .text s.category),
    ("description", .text s.description), ("default", .text s.default)] ++ choiceFields s.choices)

def groupPinTree (p : GroupPin) : Tree :=
  record [("selector", .int p.selector), ("pin", .text p.pin), ("min_pins", .int p.minPins)]

def inputTree (s : InputEntry) : Tree :=
  record ([("signal", .text s.signal), ("register", .text s.register), ("group", .int s.group),
    ("category", .text s.category), ("description", .text s.description)] ++
    match s.selectors with
    | some selectors => [("selectors", .list (selectors.map Tree.int))]
    | none => [])

def outputTree (o : OutputValue) : Tree :=
  record [("selector", .int o.selector), ("signal", .text o.signal),
    ("category", .text o.category), ("description", .text o.description)]

def pinsTree (s : Sheet) : Tree :=
  record [
    ("groups", numbered (s.groups.map fun g => (g.number, .list (g.pins.map groupPinTree)))),
    ("inputs", .list (s.inputs.map inputTree)),
    ("output_groups", numbered (s.outputGroups.map fun e => (e.1, .list (e.2.map outputTree)))),
    ("outputs", numbered (s.outputs.map fun e => (e.1, .list (e.2.map Tree.text))))]

def toTree (s : Sheet) : Tree :=
  record [
    ("family", .text s.family),
    ("registers", record (s.registers.map fun e => (e.1, registerTree e.2))),
    ("devices", record (s.parts.map fun p => (p.part, partTree p))),
    ("settings", .list (s.settings.map settingTree)),
    ("pps", s.pinsTree)]

end Sheet
end ConfigWords
