import ConfigWords.Number.Binary64
import ConfigWords.Number.Integer
import ConfigWords.Schema

/-! The clock frequency that a snapshot leads to.
The input is divided, multiplied and divided again by numbers that are read out of labels; a
label without a number, or a divider of zero, gives a fixed fallback. The estimate fails only on
numbers too long to read or too large for a double. -/
namespace ConfigWords

inductive ClockFault
  | unknownBus (bus : Int)
  | number (fault : NumberFault)
  | tooLarge
deriving DecidableEq

def ClockFault.message : ClockFault → String
  | .unknownBus bus => s!"No divisor setting for PBCLK{bus}; known buses: [2, 3]"
  | .number fault => fault.message
  | .tooLarge => "int too large to convert to float"

namespace Clock

def oscillatorSetting : Int := 12
def inputDividerSetting : Int := 6
def multiplierSetting : Int := 9
def outputDividerSetting : Int := 10

def busSetting? (bus : Int) : Option Int :=
  if bus = 2 then some 40 else if bus = 3 then some 41 else none

def defaultOscillator : String := "Primary Oscillator (XT, HS, EC) with PLL"
def defaultInputDivider : String := "3x Divider"
def defaultMultiplier : String := "PLL Multiply by 50"
def defaultOutputDivider : String := "2x Divider"
def defaultBusDivisor : Nat := 4

def internalFrequency : Binary64 := .ofNat 8

def crystalFrequency : Binary64 := .ofNat 24

def fallbackFrequency : Binary64 := .ofNat 200

/-- The first whole run of digits that an `x` follows, the run so far being given in reverse. -/
def digitsBeforeX? (run : List Char) : List Char → Option (List Char)
  | [] => none
  | c :: rest =>
    if Text.isDigit c then digitsBeforeX? (c :: run) rest
    else if c = 'x' ∧ run ≠ [] then some run.reverse
    else digitsBeforeX? [] rest

/-- The whole run of digits behind the first marker that a digit follows. -/
def digitsAfter? (marker : List Char) : List Char → Option (List Char)
  | [] => none
  | c :: rest =>
    let digits := ((c :: rest).drop marker.length).takeWhile Text.isDigit
    if (c :: rest).take marker.length = marker ∧ digits ≠ [] then some digits
    else digitsAfter? marker rest

def number? : Option (List Char) → Except NumberFault (Option Nat)
  | none => .ok none
  | some digits => (Numeral.ofDigits digits).map some

def divider? (label : String) : Except NumberFault (Option Nat) :=
  number? (digitsBeforeX? [] label.toList)

def multiplier? (label : String) : Except NumberFault (Option Nat) :=
  number? (digitsAfter? "by ".toList label.toList)

def busDivisor? (label : String) : Except NumberFault (Option Nat) :=
  number? (digitsAfter? "/".toList label.toList)

def occurs (part : List Char) : List Char → Bool
  | [] => part.isEmpty
  | c :: rest => part == (c :: rest).take part.length || occurs part rest

def inputFrequency (oscillator : String) : Binary64 :=
  if occurs "FRC".toList oscillator.toList || occurs "Fast RC".toList oscillator.toList then
    internalFrequency
  else crystalFrequency

def choice (s : Snapshot) (index : Int) (default : String) : String := (s.get? index).getD default

def toDouble (n : Nat) : Except ClockFault Binary64 :=
  match Binary64.ofInt? n with
  | some x => .ok x
  | none => .error .tooLarge

def readNumber (reader : String → Except NumberFault (Option Nat)) (label : String) :
    Except ClockFault (Option Nat) :=
  (reader label).mapError .number

def systemFrequency (s : Snapshot) : Except ClockFault Binary64 := do
  let inputDivider ← readNumber divider? (choice s inputDividerSetting defaultInputDivider)
  let multiplier ← readNumber multiplier? (choice s multiplierSetting defaultMultiplier)
  let outputDivider ← readNumber divider? (choice s outputDividerSetting defaultOutputDivider)
  match inputDivider, multiplier, outputDivider with
  | some (p + 1), some m, some (q + 1) =>
    let input := inputFrequency (choice s oscillatorSetting defaultOscillator)
    let divided := input.div (← toDouble (p + 1))
    let multiplied := divided.mul (← toDouble m)
    return multiplied.div (← toDouble (q + 1))
  | _, _, _ => return fallbackFrequency

/-- The divisor of a peripheral bus: 4 where the label names none or zero. -/
def busDivisor (s : Snapshot) (bus : Int) : Except ClockFault Nat := do
  match busSetting? bus with
  | none => throw (.unknownBus bus)
  | some index =>
    match ← readNumber busDivisor? (choice s index "") with
    | some (n + 1) => return n + 1
    | _ => return defaultBusDivisor

def busFrequency (s : Snapshot) (bus : Int) : Except ClockFault Binary64 := do
  let system ← systemFrequency s
  let divisor ← busDivisor s bus
  return system.div (← toDouble divisor)

end Clock
end ConfigWords
