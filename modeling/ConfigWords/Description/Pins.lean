import ConfigWords.Description
import ConfigWords.Description.Access

/-! Pin tables out of a tree. -/
namespace ConfigWords.Description

def readGroupPin (tree : Tree) : Except DescriptionFault GroupPin := do
  let selector ← tree.requiredInt "selector"
  let pin ← tree.requiredText "pin"
  let minPins ← tree.optionalInt "min_pins" 0
  return ⟨selector, pin, minPins⟩

def readGroups (tree : Tree) : Except DescriptionFault (List PinGroup) := do
  (← tree.entries).mapM fun e => do
    let number ← (Tree.scalar e.1).integer
    let pins ← (← e.2.items).mapM readGroupPin
    return ⟨number, pins⟩

/-- The selectors of a group; of two with one number the later counts. -/
def selectorsOf (groups : List PinGroup) (number : Int) : List Int :=
  match groups.reverse.find? fun g => g.number == number with
  | some g => g.selectors
  | none => []

def readInput (groups : List PinGroup) (tree : Tree) : Except DescriptionFault InputSignal := do
  let group ← tree.requiredInt "group"
  let selectors ←
    match Tree.lookup (← tree.entries) "selectors" with
    | some selectors => (← selectors.items).mapM Tree.integer
    | none => pure (selectorsOf groups group)
  let signal ← tree.requiredText "signal"
  let register ← tree.optionalText "register" (signal ++ "R")
  let description ← tree.optionalText "description" ""
  let category ← tree.optionalText "category" "Other"
  return ⟨signal, register, group, selectors, description, category⟩

def readOutputValue (tree : Tree) : Except DescriptionFault OutputValue := do
  let selector ← tree.requiredInt "selector"
  let signal ← tree.requiredText "signal"
  let description ← tree.optionalText "description" ""
  let category ← tree.optionalText "category" "Other"
  return ⟨selector, signal, description, category⟩

def readOutputGroups (tree : Tree) :
    Except DescriptionFault (OrderedMap Int (List OutputValue)) := do
  let groups ← (← tree.entries).mapM fun e => do
    let number ← (Tree.scalar e.1).integer
    let values ← (← e.2.items).mapM readOutputValue
    return (number, values)
  return OrderedMap.ofList groups

def readOutputPins (groups : OrderedMap Int (List OutputValue)) (key : Scalar) (pins : Tree) :
    Except DescriptionFault (List OutputPin) := do
  let number ← (Tree.scalar key).integer
  match groups.get? number with
  | none => throw (.ofPins (.noOutputSignals number))
  | some values =>
    (← pins.items).mapM fun pin => do
      let name ← pin.written
      return ⟨name, name ++ "R", number, values⟩

def readPins (tree : Tree) : Except DescriptionFault PinTables := do
  let groups ← readGroups (← tree.optional "groups" (.mapping []))
  let inputs ← (← (← tree.optional "inputs" (.list [])).items).mapM (readInput groups)
  let values ← readOutputGroups (← tree.optional "output_groups" (.mapping []))
  let outputs ← (← (← tree.optional "outputs" (.mapping [])).entries).mapM fun e =>
    readOutputPins values e.1 e.2
  (PinTables.build groups inputs outputs.flatten).mapError .ofPins

end ConfigWords.Description
