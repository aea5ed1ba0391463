import ConfigWords.OrderedMap
import ConfigWords.Ordering
import ConfigWords.Text.Quoted

/-! Which signals can be routed to which pins.
Pins stand in groups. An input signal selects its source pin by the pin's selector in the group
of the signal; an output pin selects the signal that drives it by the signal's selector.
`PinTables.build` accepts only tables in which every reference leads somewhere and every
selector means one thing. -/
namespace ConfigWords

structure GroupPin where
  selector : Int
  pin : String
  minPins : Int := 0
deriving DecidableEq

structure PinGroup where
  number : Int
  pins : List GroupPin
deriving DecidableEq

structure InputSignal where
  signal : String
  register : String
  group : Int
  selectors : List Int
  description : String := ""
  category : String := "Other"
deriving DecidableEq

structure OutputValue where
  selector : Int
  signal : String
  description : String := ""
  category : String := "Other"
deriving DecidableEq

structure OutputPin where
  pin : String
  register : String
  group : Int
  outputs : List OutputValue
deriving DecidableEq

def noConnect : String := "No Connect"

inductive PinFault
  | duplicateGroup (group : Int)
  | duplicateInput (signal : String)
  | duplicateOutput (pin : String)
  | repeatedSelector (group : Int)
  | unknownInputGroup (signal : String) (group : Int)
  | missingSelectors (signal : String) (selectors : List Int) (group : Int)
  | unknownOutputGroup (pin : String) (group : Int)
  | notMember (pin : String) (group : Int)
  | repeatedOutput (pin : String)
  | noOutputSignals (group : Int)
deriving DecidableEq

def PinFault.message : PinFault → String
  | .duplicateGroup group => s!"Duplicate PPS group {group}"
  | .duplicateInput signal => s!"Duplicate PPS input signal {signal}"
  | .duplicateOutput pin => s!"Duplicate PPS output pin {pin}"
  | .repeatedSelector group => s!"Group {group} repeats a selector"
  | .unknownInputGroup signal group => s!"{signal} references unknown group {group}"
  | .missingSelectors signal selectors group =>
    let listed := Text.bracketed (selectors.map toString)
    s!"{signal} allows selectors {listed} not present in group {group}"
  | .unknownOutputGroup pin group => s!"{pin} references unknown group {group}"
  | .notMember pin group => s!"Output pin {pin} is not a member of group {group}"
  | .repeatedOutput pin => s!"{pin} repeats an output selector"
  | .noOutputSignals group => s!"No output signals declared for group {group}"

namespace PinGroup

/-- The group's entry for a pin: the first one of that name. -/
def entry? (g : PinGroup) (pin : String) : Option GroupPin := g.pins.find? fun e => e.pin == pin

def selectors (g : PinGroup) : List Int := g.pins.map (·.selector)

end PinGroup

namespace OutputPin

def output? (p : OutputPin) (signal : String) : Option OutputValue :=
  p.outputs.find? fun o => o.signal == signal

end OutputPin

structure UnknownGroup where
  number : Int

def UnknownGroup.message (fault : UnknownGroup) : String := toString fault.number

structure PinTables where
  groups : OrderedMap Int PinGroup
  inputs : OrderedMap String InputSignal
  outputs : OrderedMap String OutputPin

namespace PinTables

def index {K V : Type} [BEq K] (key : V → K) (fault : K → PinFault) (items : List V) :
    Except PinFault (OrderedMap K V) :=
  items.foldlM (fun m v => if m.contains (key v) then .error (fault (key v))
    else .ok (m.insert (key v) v)) OrderedMap.empty

def checkGroup (g : PinGroup) : Except PinFault Unit :=
  if g.selectors.Nodup then .ok () else .error (.repeatedSelector g.number)

def checkInput (groups : OrderedMap Int PinGroup) (s : InputSignal) : Except PinFault Unit :=
  match groups.get? s.group with
  | none => .error (.unknownInputGroup s.signal s.group)
  | some g =>
    match s.selectors.filter fun n => n ∉ g.selectors with
    | [] => .ok ()
    | missing => .error (.missingSelectors s.signal (sortedDistinct missing) s.group)

def checkOutput (groups : OrderedMap Int PinGroup) (p : OutputPin) : Except PinFault Unit :=
  match groups.get? p.group with
  | none => .error (.unknownOutputGroup p.pin p.group)
  | some g =>
    if (g.entry? p.pin).isNone then .error (.notMember p.pin p.group)
    else if (p.outputs.map (·.selector)).Nodup then .ok ()
    else .error (.repeatedOutput p.pin)

/-- The tables of some groups, inputs and outputs, or the first fault: repeated names first,
then each group, each input and each output on its own. -/
def build (groups : List PinGroup) (inputs : List InputSignal) (outputs : List OutputPin) :
    Except PinFault PinTables := do
  let groups ← index (·.number) .duplicateGroup groups
  let inputs ← index (·.signal) .duplicateInput inputs
  let outputs ← index (·.pin) .duplicateOutput outputs
  groups.values.forM checkGroup
  inputs.values.forM (checkInput groups)
  outputs.values.forM (checkOutput groups)
  return ⟨groups, inputs, outputs⟩

def group? (t : PinTables) (number : Int) : Option PinGroup := t.groups.get? number

def input? (t : PinTables) (signal : String) : Option InputSignal := t.inputs.get? signal

def output? (t : PinTables) (pin : String) : Option OutputPin := t.outputs.get? pin

def outputsOf? (t : PinTables) (pin : String) : Option (List OutputValue) :=
  (t.output? pin).map (·.outputs)

def pinsFor (t : PinTables) (signal : String) (package : Option Int) : List String :=
  match t.input? signal with
  | none => []
  | some s =>
    match t.group? s.group with
    | none => []
    | some g =>
      (g.pins.filter fun e => e.selector ∈ s.selectors && e.pin != noConnect &&
        package.all fun size => e.minPins ≤ size).map (·.pin)

def groupOf (t : PinTables) (number : Int) : Except UnknownGroup PinGroup :=
  match t.group? number with
  | some g => .ok g
  | none => .error ⟨number⟩

def listPins (t : PinTables) (signal : String) (package : Option Int) :
    Except UnknownGroup (List String) :=
  match t.input? signal with
  | none => .ok []
  | some s => (t.groupOf s.group).map fun _ => t.pinsFor signal package

/-- The smallest package that has a pin, as the first group with that pin says; 0 if none does. -/
def minPinCount (t : PinTables) (pin : String) : Int :=
  match t.groups.values.findSome? fun g => g.entry? pin with
  | some e => e.minPins
  | none => 0

end PinTables
end ConfigWords
