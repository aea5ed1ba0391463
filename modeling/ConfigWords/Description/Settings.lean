import ConfigWords.Description
import ConfigWords.Description.Access

/-! Registers, parts and settings out of a tree. -/
namespace ConfigWords.Description

def readRegisters (tree : Tree) : Except DescriptionFault Registers := do
  if !tree.truth then throw .noRegisters
  let registers ← (← tree.entries).mapM fun e => do
    let address ← e.2.requiredInt "address"
    return (e.1, { name := e.1, address := address : Register })
  return OrderedMap.ofList registers

def readVariants (tree : Tree) : Except DescriptionFault (OrderedMap Scalar Variant) := do
  let variants ← (← tree.entries).mapM fun e => do
    let pins ← e.2.requiredInt "pins"
    let flashKb ← e.2.optionalInt "flash_kb" 0
    let ramKb ← e.2.optionalInt "ram_kb" 0
    return (e.1, (⟨e.1, pins, flashKb, ramKb⟩ : Variant))
  return OrderedMap.ofList variants

def readPragma (index : Int) (e : Scalar × Tree) : Except DescriptionFault String :=
  match e.2 with
  | .scalar (.text value) => .ok value
  | value => .error (.entry (.pragmaNotText index e.1 value))

def readPragmas (index : Int) (tree : Tree) :
    Except DescriptionFault (OrderedMap String String) := do
  if !tree.truth then return OrderedMap.empty
  let entries ← tree.entries
  let pragmas ← entries.mapM (readPragma index)
  let labels ← entries.mapM fun e => (Tree.scalar e.1).written
  return OrderedMap.ofList (labels.zip pragmas)

def readValues (entries : List (Scalar × Tree)) :
    Except DescriptionFault (OrderedMap String Int) := do
  let values ← entries.mapM fun e => do
    let label ← (Tree.scalar e.1).written
    return (label, ← e.2.integer)
  return OrderedMap.ofList values

def readTarget (index : Int) (registers : Registers) (tree : Tree) :
    Except DescriptionFault Scalar :=
  match tree with
  | .scalar name =>
    if registers.contains name then .ok name
    else .error (.entry (.unknownRegister index name))
  | .list _ | .mapping _ => .error .badShape

def readField (index : Int) (registers : Registers) (entry options field : Tree) :
    Except DescriptionFault Field := do
  match options with
  | .mapping labels =>
    let register ← readTarget index registers (← field.required "register")
    let name ← field.requiredText "name"
    let start ← field.requiredInt "bit_start"
    let width ← field.requiredInt "bit_width"
    let values ← readValues labels
    let pragmas ← readPragmas index (← entry.optional "pragmas" .null)
    let draft : Field.Draft := ⟨index, register, name, start, width, values, pragmas⟩
    draft.check.mapError fun fault => .entry (.field fault)
  | .scalar _ | .list _ => throw (.entry (.optionsNotMapping index))

def isPresent : Tree → Bool
  | .scalar .null => false
  | _ => true

def checkKind (index : Int) (informational : Bool) (field : Tree) :
    Except DescriptionFault Unit :=
  if informational == isPresent field then .error (.entry (.fieldOrInformational index))
  else .ok ()

def readMapped (index : Int) (registers : Registers) (entry options field : Tree) :
    Except DescriptionFault (Option Field) :=
  if isPresent field then some <$> readField index registers entry options field else .ok none

def readLabels (options : Tree) : Option Field → Except DescriptionFault (List String)
  | some f => .ok f.values.keys
  | none => do (← options.items).mapM Tree.written

def readSetting (registers : Registers) (entry : Tree) :
    Except DescriptionFault (Setting × Option Field) := do
  let index ← entry.requiredInt "index"
  let options ← entry.required "options"
  let informational := (← entry.optional "informational" (.bool false)).truth
  let field ← entry.optional "field" .null
  checkKind index informational field
  let mapped ← readMapped index registers entry options field
  let labels ← readLabels options mapped
  let name ← entry.requiredText "name"
  let category ← entry.optionalText "category" "General"
  let default ← entry.requiredText "default"
  let description ← entry.optionalText "description" ""
  let draft : Setting.Draft := ⟨index, name, category, labels, default, description, informational⟩
  let setting ← draft.check.mapError fun fault => .entry (.setting fault)
  return (setting, mapped)

/-- A number that cannot be read or written out inside the settings is a fault of its entry, unless
it is infinite. -/
def blameEntry : DescriptionFault → DescriptionFault
  | .number fault => if fault.isValue then .entry (.number fault) else .number fault
  | .entry fault =>
    if fault.shown.all Tree.writable then .entry fault else .entry (.number .unwritable)
  | fault => fault

def placeSetting (registers : Registers) (tables : Schema × Layout) (entry : Tree) :
    Except DescriptionFault (Schema × Layout) := do
  let (setting, field) ← readSetting registers entry
  let schema ← (tables.1.add setting).mapError fun fault => .entry (.schema fault)
  match field with
  | none => return (schema, tables.2)
  | some f =>
    let layout ← (tables.2.add f).mapError fun fault => .entry (.layout fault)
    return (schema, layout)

def addSetting (registers : Registers) (tables : Schema × Layout) (entry : Tree) :
    Except DescriptionFault (Schema × Layout) :=
  (placeSetting registers tables entry).mapError blameEntry

def readSettings (registers : Registers) (tree : Tree) :
    Except DescriptionFault (Schema × Layout) := do
  (← tree.items).foldlM (addSetting registers) (Schema.empty, Layout.empty)

end ConfigWords.Description
