import ConfigWords.Failure
import ConfigWords.Pins.Routing
import ConfigWords.Schema
import ConfigWords.Text.Lowercase
import ConfigWords.Tree

/-! Snapshots and assignments as they stand in files. -/
namespace ConfigWords

inductive SnapshotFault
  | notMapping
  | badIndex (fault : NumberFault)
  | unsuitableIndex (fault : NumberFault)
  | labelNotText (index : Int) (label : Tree)
  | unwritable

def SnapshotFault.failure? : SnapshotFault → Option Failure
  | .notMapping => some ⟨"snapshot", "expected a mapping of setting index to label"⟩
  | .badIndex fault => some ⟨"snapshot", "setting indices must be integers: " ++ fault.message⟩
  | .unsuitableIndex _ => none
  | .labelNotText index label =>
    some ⟨"snapshot",
      s!"label for setting {index} must be a string, got {label.quoted}; quote it in the file"⟩
  | .unwritable => none

inductive AssignmentFault
  | notList
  | missingKey (key : String)
  | entryNotMapping
  | unwritable
  | direction (fault : DirectionFault)

def AssignmentFault.failure? : AssignmentFault → Option Failure
  | .notList => some ⟨"assignments", "expected a list of assignments"⟩
  | .missingKey key => some ⟨"assignments", "missing key " ++ Text.quoted key⟩
  | .entryNotMapping => none
  | .unwritable => some ⟨"assignments", NumberFault.unwritable.message⟩
  | .direction fault => some ⟨"assignments", fault.message⟩

namespace Interchange

def readIndex (key : Scalar) : Except SnapshotFault Int :=
  key.toInt.mapError fun fault =>
    if fault.isValue then .badIndex fault else .unsuitableIndex fault

def readChoice (e : Scalar × Tree) : Except SnapshotFault (Int × String) := do
  let index ← readIndex e.1
  match e.2 with
  | .scalar (.text label) => return (index, label)
  | label =>
    if Numeral.writable index && label.writable then throw (.labelNotText index label)
    else throw .unwritable

/-- The part of a tree that holds the snapshot: the mapping under `settings` if there is one. -/
def snapshotRoot (tree : Tree) : Tree :=
  match tree with
  | .mapping entries =>
    match Tree.lookup entries "settings" with
    | some (.mapping inner) => .mapping inner
    | _ => tree
  | _ => tree

def readSnapshot (tree : Tree) : Except SnapshotFault Snapshot :=
  match snapshotRoot tree with
  | .scalar .null => .ok OrderedMap.empty
  | .mapping entries => (entries.mapM readChoice).map OrderedMap.ofList
  | _ => .error .notMapping

def readPart (entry : Tree) (key : String) : Except AssignmentFault String :=
  match entry with
  | .mapping entries =>
    match Tree.lookup entries key with
    | some value => if value.writable then .ok value.plain else .error .unwritable
    | none => .error (.missingKey key)
  | _ => .error .entryNotMapping

def readAssignment (entry : Tree) : Except AssignmentFault Assignment := do
  let signal ← readPart entry "signal"
  let pin ← readPart entry "pin"
  let direction ← readPart entry "direction"
  (Assignment.ofNames signal pin (Text.lowercase direction)).mapError .direction

/-- The part of a tree that holds the assignments: in a mapping the value under `assignments`. -/
def assignmentsRoot (tree : Tree) : Tree :=
  match tree with
  | .mapping entries => (Tree.lookup entries "assignments").getD (.list [])
  | _ => tree

def readAssignments (tree : Tree) : Except AssignmentFault (List Assignment) :=
  match assignmentsRoot tree with
  | .scalar .null => .ok []
  | .list items => items.mapM readAssignment
  | _ => .error .notList

end Interchange
end ConfigWords
