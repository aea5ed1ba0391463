import ConfigWords.Tree
import ConfigWords.Yaml.Node
import ConfigWords.Yaml.Plain

/-! YAML texts as trees. -/
namespace ConfigWords.Yaml

/-- A scalar as a value. The marks of merging and of a default value denote nothing. -/
def valueScalar (plain : Bool) (content : String) : Except Fault Scalar :=
  if !plain then .ok (.text content)
  else if content = "<<" ∨ content = "=" then .error .malformed
  else plainScalar content

/-- A node as a key: only scalars are keys, and the mark of a default value is its own text. -/
def keyScalar : Node → Except Fault Scalar
  | .scalar plain content =>
    if plain && content == "=" then .ok (.text content) else valueScalar plain content
  | .list _ | .mapping _ => .error .malformed

mutual

def Node.toTree : Node → Except Fault Tree
  | .scalar plain content => (valueScalar plain content).map .scalar
  | .list items => (itemTrees items).map .list
  | .mapping entries => (entryTrees entries).map Tree.ofPairs

def itemTrees : List Node → Except Fault (List Tree)
  | [] => .ok []
  | item :: rest => do return (← item.toTree) :: (← itemTrees rest)

def entryTrees : List (Node × Node) → Except Fault (List (Scalar × Tree))
  | [] => .ok []
  | (key, value) :: rest => do return (← keyScalar key, ← value.toTree) :: (← entryTrees rest)

end

def faultAt {α : Type} (depth : Nat) : Except Fault α → List (Nat × Fault)
  | .error fault => [(depth, fault)]
  | .ok _ => []

mutual

def Node.faults (depth : Nat) : Node → List (Nat × Fault)
  | .scalar plain content => faultAt depth (valueScalar plain content)
  | .list items => itemFaults (depth + 1) items
  | .mapping entries => entryFaults (depth + 1) entries

def itemFaults (depth : Nat) : List Node → List (Nat × Fault)
  | [] => []
  | item :: rest => item.faults depth ++ itemFaults depth rest

def entryFaults (depth : Nat) : List (Node × Node) → List (Nat × Fault)
  | [] => []
  | (key, value) :: rest =>
    faultAt depth (keyScalar key) ++ value.faults depth ++ entryFaults depth rest

end

def outermost : List (Nat × Fault) → Option (Nat × Fault)
  | [] => none
  | a :: rest =>
    match outermost rest with
    | some b => some (if b.1 < a.1 then b else a)
    | none => some a

/-- The tree of a whole document; of several faults the outermost counts. -/
def documentTree (node : Node) : Except Fault Tree :=
  node.toTree.mapError fun fault => ((outermost (node.faults 0)).map (·.2)).getD fault

def read (text : String) : Except Fault Tree := do
  let cs := unifyLines text.toList
  if !cs.all isAllowed then throw .malformed
  match ← documentNode (← tokens cs).toList with
  | none => return .null
  | some node => documentTree node

end ConfigWords.Yaml
