import ConfigWords.OrderedMap
import ConfigWords.Scalar

/-! Trees of values, the form in which descriptions and input files are read.
Binary data, times of day and sets, which such a document may hold as well, have no form here. -/
namespace ConfigWords

inductive Tree
  | scalar (value : Scalar)
  | list (items : List Tree)
  | mapping (entries : List (Scalar × Tree))
deriving Inhabited

namespace Tree

abbrev null : Tree := .scalar .null
abbrev bool (b : Bool) : Tree := .scalar (.bool b)
abbrev int (n : Int) : Tree := .scalar (.int n)
abbrev text (s : String) : Tree := .scalar (.text s)

/-- The mapping of a list of pairs: a repeated key keeps its first place and takes the last
value. -/
def ofPairs (pairs : List (Scalar × Tree)) : Tree :=
  .mapping (OrderedMap.ofList pairs).entries

def lookup (entries : List (Scalar × Tree)) (key : String) : Option Tree :=
  (entries.find? fun e => e.1 == .text key).map (·.2)

mutual

def quoted : Tree → String
  | .scalar s => s.quoted
  | .list items => "[" ++ quotedItems items ++ "]"
  | .mapping entries => "\x7b" ++ quotedEntries entries ++ "\x7d"

def quotedItems : List Tree → String
  | [] => ""
  | [item] => item.quoted
  | item :: rest => item.quoted ++ ", " ++ quotedItems rest

def quotedEntries : List (Scalar × Tree) → String
  | [] => ""
  | [(key, value)] => key.quoted ++ ": " ++ value.quoted
  | (key, value) :: rest => key.quoted ++ ": " ++ value.quoted ++ ", " ++ quotedEntries rest

end

def plain : Tree → String
  | .scalar s => s.plain
  | tree => tree.quoted

mutual

def writable : Tree → Bool
  | .scalar s => s.writable
  | .list items => writableItems items
  | .mapping entries => writableEntries entries

def writableItems : List Tree → Bool
  | [] => true
  | item :: rest => item.writable && writableItems rest

def writableEntries : List (Scalar × Tree) → Bool
  | [] => true
  | (key, value) :: rest => key.writable && value.writable && writableEntries rest

end

def truth : Tree → Bool
  | .scalar s => s.truth
  | .list items => !items.isEmpty
  | .mapping entries => !entries.isEmpty

def toInt : Tree → Except NumberFault Int
  | .scalar s => s.toInt
  | .list _ | .mapping _ => .error .unsuitable

end Tree
end ConfigWords
