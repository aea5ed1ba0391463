import ConfigWords.Description.Pins
import ConfigWords.Description.Settings

/-! The description of a device family out of a tree. -/
namespace ConfigWords.Description

def ofTree (tree : Tree) : Except DescriptionFault Description := do
  match tree with
  | .scalar _ | .list _ => throw .rootNotMapping
  | .mapping _ =>
    let registers ← readRegisters (← tree.required "registers")
    let (schema, layout) ← readSettings registers (← tree.required "settings")
    let family ← tree.requiredText "family"
    let variants ← readVariants (← tree.optional "devices" (.mapping []))
    let pins ← readPins (← tree.optional "pps" (.mapping []))
    return ⟨family, registers, variants, schema, layout, pins⟩

end ConfigWords.Description
