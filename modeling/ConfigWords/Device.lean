import ConfigWords.Clock
import ConfigWords.Compiler
import ConfigWords.Description
import ConfigWords.Pins.Routing

/-! One part of a family with its tables. -/
namespace ConfigWords

structure UnknownPart where
  part : Scalar
  available : List Scalar

structure Device where
  description : Description
  variant : Variant

namespace Device

def ofDescription (d : Description) (part : Scalar) : Except UnknownPart Device :=
  match d.variants.get? part with
  | some variant => .ok ⟨d, variant⟩
  | none => .error ⟨part, d.variants.keys⟩

def compilerOf (d : Description) : Compiler :=
  ⟨d.layout, d.registers, d.schema.informationalIndices⟩

def compiler (device : Device) : Compiler := compilerOf device.description

def name (device : Device) : Scalar := device.variant.part

def route (device : Device) (assignments : List Assignment) (package : Option Int) : Routing :=
  device.description.pins.route assignments (some (package.getD device.variant.pins))

def summary (device : Device) : String :=
  s!"<PIC32MZEFHDevice {device.name.plain} ({device.variant.pins} pins)>"

def creationNote (device : Device) (asked : Scalar) : String :=
  s!"Created {asked.plain} ({device.variant.pins} pins, {device.variant.flashKb} KB flash)"

end Device
end ConfigWords
