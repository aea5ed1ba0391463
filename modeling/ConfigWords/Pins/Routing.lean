import ConfigWords.Diagnostic
import ConfigWords.Distinct
import ConfigWords.Pins.Tables
import ConfigWords.Text.Hex

/-! Routing of signals to pins.
Each assignment is resolved on its own, to a register and a selector or to a refusal. Of several
resolved assignments on one register the first is kept. Several signals on one output pin are a
conflict; a repeated input is only warned about. -/
namespace ConfigWords

inductive Direction
  | input
  | output
deriving DecidableEq

namespace Direction

def name : Direction → String
  | .input => "input"
  | .output => "output"

def ofName? : String → Option Direction
  | "input" => some .input
  | "output" => some .output
  | _ => none

theorem ofName?_name (d : Direction) : ofName? d.name = some d := by cases d <;> rfl

end Direction

structure DirectionFault where
  name : String

def DirectionFault.message (fault : DirectionFault) : String :=
  Text.quoted fault.name ++ " is not a valid PinDirection"

structure Assignment where
  signal : String
  pin : String
  direction : Direction
deriving DecidableEq

def Assignment.ofNames (signal pin direction : String) : Except DirectionFault Assignment :=
  match Direction.ofName? direction with
  | some d => .ok ⟨signal, pin, d⟩
  | none => .error ⟨direction⟩

inductive Refusal
  | unknownInput
  | notInGroup (group : Int)
  | notRemappable
  | notSelectable (group : Int)
  | largerPackage (pins : Int)
deriving DecidableEq

def Refusal.reason : Refusal → String
  | .unknownInput => "unknown PPS input signal"
  | .notInGroup group => s!"pin is not in input group {group}"
  | .notRemappable => "pin is not a remappable output"
  | .notSelectable group => s!"signal is not selectable on output group {group}"
  | .largerPackage pins => s!"pin only available on {pins}-pin packages and larger"

def Refusal.writable : Refusal → Bool
  | .unknownInput | .notRemappable => true
  | .notInGroup number | .notSelectable number | .largerPackage number => Numeral.writable number

structure Refused where
  assignment : Assignment
  refusal : Refusal
deriving DecidableEq

def Refused.diagnostic (r : Refused) : Diagnostic :=
  .invalidRouting r.assignment.signal r.assignment.pin r.assignment.direction.name r.refusal.reason

structure Resolved where
  assignment : Assignment
  register : String
  selector : Int
deriving DecidableEq

structure RepeatedInput where
  signal : String
  register : String
  kept : Int
deriving DecidableEq

def RepeatedInput.message (r : RepeatedInput) : String :=
  let kept := Text.hexInt r.kept
  s!"{r.signal} assigned more than once; keeping {r.register} = {kept}"

structure Routing where
  selectors : OrderedMap String Int
  resolved : List Resolved
  refused : List Refused
  conflicts : List PinConflict
  repeats : List RepeatedInput

namespace Routing

def clean (r : Routing) : Bool := r.conflicts.isEmpty && r.refused.isEmpty

/-- The routing with its refusals put in words, unless one of them names too long a number. -/
def written (r : Routing) : Except NumberFault Routing :=
  if r.refused.all fun x => x.refusal.writable then .ok r else .error .unwritable

def inputs (r : Routing) : List Resolved :=
  r.resolved.filter fun x => x.assignment.direction == .input

def outputs (r : Routing) : List Resolved :=
  r.resolved.filter fun x => x.assignment.direction == .output

def firstSelectors (resolved : List Resolved) : OrderedMap String Int :=
  resolved.foldl (fun m x => if m.contains x.register then m else m.insert x.register x.selector)
    OrderedMap.empty

/-- The inputs whose register is settled when their turn comes. -/
def repeatedInputs (settled : OrderedMap String Int) : List Resolved → List RepeatedInput
  | [] => []
  | x :: rest =>
    match settled.get? x.register with
    | some kept =>
      if x.assignment.direction = .input then
        ⟨x.assignment.signal, x.register, kept⟩ :: repeatedInputs settled rest
      else repeatedInputs settled rest
    | none => repeatedInputs (settled.insert x.register x.selector) rest

def claims (outputs : List Resolved) (pin : String) : List Resolved :=
  outputs.filter fun x => x.assignment.pin == pin

def conflictOn (outputs : List Resolved) (pin : String) : Option PinConflict :=
  match claims outputs pin, distinct ((claims outputs pin).map (·.assignment.signal)) with
  | first :: _, kept :: other :: more => some ⟨pin, first.register, kept, other :: more⟩
  | _, _ => none

def conflictsOf (outputs : List Resolved) : List PinConflict :=
  (distinct (outputs.map (·.assignment.pin))).filterMap (conflictOn outputs)

end Routing

namespace PinTables

def checkPackage (t : PinTables) (a : Assignment) (package : Option Int) : Except Refused Unit :=
  match package with
  | none => .ok ()
  | some size =>
    if t.minPinCount a.pin > size then .error ⟨a, .largerPackage (t.minPinCount a.pin)⟩
    else .ok ()

def resolveInput (t : PinTables) (a : Assignment) (package : Option Int) :
    Except Refused Resolved :=
  match t.input? a.signal with
  | none => .error ⟨a, .unknownInput⟩
  | some s =>
    match (t.group? s.group).bind fun g => g.entry? a.pin with
    | none => .error ⟨a, .notInGroup s.group⟩
    | some e =>
      if e.selector ∈ s.selectors then do
        t.checkPackage a package
        return ⟨a, s.register, e.selector⟩
      else .error ⟨a, .notInGroup s.group⟩

def resolveOutput (t : PinTables) (a : Assignment) (package : Option Int) :
    Except Refused Resolved :=
  match t.output? a.pin with
  | none => .error ⟨a, .notRemappable⟩
  | some p =>
    match p.output? a.signal with
    | none => .error ⟨a, .notSelectable p.group⟩
    | some o => do
      t.checkPackage a package
      return ⟨a, p.register, o.selector⟩

def resolve (t : PinTables) (package : Option Int) (a : Assignment) : Except Refused Resolved :=
  match a.direction with
  | .input => t.resolveInput a package
  | .output => t.resolveOutput a package

def route (t : PinTables) (assignments : List Assignment) (package : Option Int) : Routing :=
  let outcomes := assignments.map (t.resolve package)
  let resolved := outcomes.filterMap Except.toOption
  let refused := outcomes.filterMap fun
    | .error r => some r
    | .ok _ => none
  { selectors := Routing.firstSelectors resolved
    resolved := resolved
    refused := refused
    conflicts := Routing.conflictsOf
      (resolved.filter fun x => x.assignment.direction == .output)
    repeats := Routing.repeatedInputs OrderedMap.empty resolved }

end PinTables
end ConfigWords
