import ConfigWords.Description.Fault

/-! Access to the parts of a tree. A part that is not there, and one of the wrong shape, are
faults of the description. -/
namespace ConfigWords.Tree

def entries : Tree → Except DescriptionFault (List (Scalar × Tree))
  | .mapping entries => .ok entries
  | .scalar _ | .list _ => .error .badShape

def required (tree : Tree) (key : String) : Except DescriptionFault Tree := do
  match lookup (← tree.entries) key with
  | some value => return value
  | none => throw (.missingKey key)

def optional (tree : Tree) (key : String) (default : Tree) : Except DescriptionFault Tree := do
  return (lookup (← tree.entries) key).getD default

/-- What a tree can be gone through as: the items of a list, the keys of a mapping, the
characters of a text. -/
def items : Tree → Except DescriptionFault (List Tree)
  | .list items => .ok items
  | .mapping entries => .ok (entries.map fun e => .scalar e.1)
  | .scalar (.text s) => .ok (s.toList.map fun c => .text (String.singleton c))
  | .scalar _ => .error .badShape

def numberFault : NumberFault → DescriptionFault
  | .unsuitable => .badShape
  | fault => .number fault

def integer (tree : Tree) : Except DescriptionFault Int := tree.toInt.mapError numberFault

def requiredInt (tree : Tree) (key : String) : Except DescriptionFault Int := do
  (← tree.required key).integer

def optionalInt (tree : Tree) (key : String) (default : Int) : Except DescriptionFault Int := do
  (← tree.optional key (.int default)).integer

def written (tree : Tree) : Except DescriptionFault String :=
  if tree.writable then .ok tree.plain else .error (.number .unwritable)

def requiredText (tree : Tree) (key : String) : Except DescriptionFault String := do
  (← tree.required key).written

def optionalText (tree : Tree) (key default : String) : Except DescriptionFault String := do
  (← tree.optional key (.text default)).written

end ConfigWords.Tree
