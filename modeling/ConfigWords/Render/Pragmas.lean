import ConfigWords.Layout
import ConfigWords.Render.Words
import ConfigWords.Schema
import ConfigWords.Text.Digit

/-! Compiled words as pragma lines.
The lines stand in one block for each register, in the order of the image, and inside a block in
the order of the layout. A closing block repeats the words for reference. -/
namespace ConfigWords.Render

def multiplierField : String := "FPLLMULT"

def multiplierLabel : String := "PLL Multiply by "

def multiplierDigits? (label : String) : Option (List Char) :=
  let head := multiplierLabel.toList
  let digits := label.toList.drop head.length
  if label.toList.take head.length = head ∧ digits ≠ [] ∧ digits.all Text.isDigit then some digits
  else none

/-- The pragma text of a label: the one in the field's table, or for the multiplier field the one
that the label spells out. -/
def pragmaValue? (f : Field) (label : String) : Option String :=
  match f.pragma? label with
  | some value => some value
  | none =>
    if f.name = multiplierField then
      (multiplierDigits? label).map fun digits => "MUL_" ++ String.ofList digits
    else none

def pragmaLine? (s : Snapshot) (f : Field) : Option String := do
  let label ← s.get? f.index
  let value ← pragmaValue? f label
  return "#pragma config " ++ f.name ++ " = " ++ value

def pragmaBlock (s : Snapshot) (layout : Layout) (register : Scalar) : List String :=
  let lines := (layout.toList.filter fun f => f.register.agrees register).filterMap (pragmaLine? s)
  if lines.isEmpty then [] else ("// " ++ register.plain) :: lines ++ [""]

def referenceLine (name : Scalar) (word : Int) : String :=
  "// " ++ name.plain ++ " = " ++ Word.hex word

/-- The lines of the text: a heading, the blocks of the image's registers, and the words for
reference. The device is named unless its name is empty. -/
def pragmaLines (s : Snapshot) (image : Image) (layout : Layout) (device : Scalar) : List String :=
  ["// PIC32MZ Configuration Bit Settings"] ++
  (if device.truth then ["// Device: " ++ device.plain] else []) ++ [""] ++
  image.words.keys.flatMap (pragmaBlock s layout) ++
  ["// Register values (for reference):"] ++
  image.words.entries.map fun e => referenceLine e.1 e.2

def pragmas (s : Snapshot) (image : Image) (layout : Layout) (device : Scalar) : String :=
  joinLines (pragmaLines s image layout device)

def writtenPragmas (s : Snapshot) (image : Image) (layout : Layout) (device : Scalar) :
    Except WordsFault String := do
  if device.truth && !device.writable then throw (.number .unwritable)
  checkNames image image.words.keys
  return pragmas s image layout device

end ConfigWords.Render
