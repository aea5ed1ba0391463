import ConfigWords.Failure
import ConfigWords.Layout
import ConfigWords.Pins.Tables
import ConfigWords.Schema
import ConfigWords.Tree

/-! Why a tree is no description of a device family. -/
namespace ConfigWords

inductive EntryFault
  | number (fault : NumberFault)
  | fieldOrInformational (index : Int)
  | optionsNotMapping (index : Int)
  | unknownRegister (index : Int) (register : Scalar)
  | pragmaNotText (index : Int) (label : Scalar) (value : Tree)
  | field (fault : FieldFault)
  | setting (fault : SettingFault)
  | schema (fault : SchemaFault)
  | layout (fault : LayoutFault)

def EntryFault.message : EntryFault → String
  | .number fault => fault.message
  | .fieldOrInformational index =>
    s!"Setting {index} must either declare a field or be informational"
  | .optionsNotMapping index => s!"Setting {index} options must map label -> field value"
  | .unknownRegister index register =>
    s!"Setting {index} targets unknown register {register.quoted}"
  | .pragmaNotText index label value =>
    s!"Setting {index} pragma value for {label.quoted} must be a quoted string, " ++
      "got " ++ value.quoted
  | .field fault => fault.message
  | .setting fault => fault.message
  | .schema fault => fault.message
  | .layout fault => fault.message

def EntryFault.shown : EntryFault → List Tree
  | .number _ => []
  | .fieldOrInformational index | .optionsNotMapping index => [.int index]
  | .unknownRegister index register => [.int index, .scalar register]
  | .pragmaNotText index label value => [.int index, .scalar label, value]
  | .field (.startOutside _ start) => [.int start]
  | .field (.widthOutside _ width) => [.int width]
  | .field (.valueTooWide _ value _ width) => [.int value, .int width]
  | .field (.pastTop _) | .field (.unknownPragmas _ _) => []
  | .setting (.negativeIndex index) | .setting (.noOptions index) => [.int index]
  | .setting (.duplicateOptions index) | .setting (.defaultNotOption index _) => [.int index]
  | .schema fault => [.int fault.index]
  | .layout (.alreadyMapped index) => [.int index]
  | .layout (.overlap added _) => [.scalar added.register]

def PinFault.shown : PinFault → List Int
  | .duplicateGroup group | .repeatedSelector group | .noOutputSignals group => [group]
  | .unknownInputGroup _ group | .unknownOutputGroup _ group | .notMember _ group => [group]
  | .missingSelectors _ selectors group => selectors ++ [group]
  | .duplicateInput _ | .duplicateOutput _ | .repeatedOutput _ => []

inductive DescriptionFault
  | rootNotMapping
  | noRegisters
  | missingKey (key : String)
  | badShape
  | entry (fault : EntryFault)
  | pins (fault : PinFault)
  /-- A number outside the settings cannot be read or written out, or one anywhere is infinite. -/
  | number (fault : NumberFault)

def DescriptionFault.ofPins (fault : PinFault) : DescriptionFault :=
  if fault.shown.all Numeral.writable then .pins fault else .number .unwritable

def DescriptionFault.table? : DescriptionFault → Option String
  | .entry _ => some "settings"
  | .pins _ => some "pps"
  | _ => none

/-- The failure that a fault is reported as; a number that cannot be read or written out is not
reported. -/
def DescriptionFault.failure? : DescriptionFault → Option Failure
  | .rootNotMapping => some (.whole "Config root must be a mapping")
  | .noRegisters => some ⟨"registers", "at least one register is required"⟩
  | .missingKey key => some (.whole ("Missing required config key: " ++ Text.quoted key))
  | .badShape => some (.whole "Invalid config schema: *")
  | .entry fault => some ⟨"settings", fault.message⟩
  | .pins fault => some ⟨"pps", fault.message⟩
  | .number _ => none

end ConfigWords
