/-! The text of a failure that names the part of a configuration it belongs to. -/
namespace ConfigWords

structure Failure where
  key : String
  problem : String
deriving DecidableEq

namespace Failure

def wholeKey : String := "configuration"

/-- The failure of a key and a problem, either of which may be left out. A key without a problem
is itself the problem, of the configuration as a whole. -/
def ofParts (key problem : Option String) : Failure :=
  match problem with
  | some problem => ⟨key.getD wholeKey, problem⟩
  | none =>
    match key with
    | some key => ⟨wholeKey, if key.isEmpty then "Invalid configuration" else key⟩
    | none => ⟨wholeKey, "Invalid configuration"⟩

def whole (problem : String) : Failure := ⟨wholeKey, problem⟩

def message (f : Failure) : String := s!"Configuration error for '{f.key}': {f.problem}"

end Failure
end ConfigWords
