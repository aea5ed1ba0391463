import ConfigWords.Layout
import ConfigWords.Pins.Tables
import ConfigWords.Register
import ConfigWords.Schema

/-! The description of a device family: its registers, parts, settings, fields and pins. -/
namespace ConfigWords

structure Variant where
  part : Scalar
  pins : Int
  flashKb : Int
  ramKb : Int

structure Description where
  family : String
  registers : Registers
  variants : OrderedMap Scalar Variant
  schema : Schema
  layout : Layout
  pins : PinTables

end ConfigWords
