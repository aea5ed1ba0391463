import ConfigWords.Number.Integer

/-! What is wrong with a user's input without stopping the work on it. -/
namespace ConfigWords

structure PinConflict where
  pin : String
  register : String
  kept : String
  losing : List String
deriving DecidableEq

namespace PinConflict

def signals (conflict : PinConflict) : List String := conflict.kept :: conflict.losing

def ofSignals? (pin register : String) : List String → Option PinConflict
  | [] => none
  | kept :: losing => some ⟨pin, register, kept, losing⟩

end PinConflict

inductive Diagnostic
  | bare
  | unknownSetting (index : Int) (label : String)
  | unknownOption (index : Int) (label field : String)
  | invalidRouting (signal pin direction reason : String)
  | pinConflict (conflict : PinConflict)
deriving DecidableEq

def Diagnostic.writable : Diagnostic → Bool
  | .unknownSetting index _ | .unknownOption index _ _ => Numeral.writable index
  | .bare | .invalidRouting _ _ _ _ | .pinConflict _ => true

def Diagnostic.message : Diagnostic → String
  | .bare => "Diagnostic"
  | .unknownSetting index label =>
    s!"Setting {index} has no register field (value {Text.quoted label} ignored)"
  | .unknownOption index label field =>
    s!"Unknown value {Text.quoted label} for setting {index} ({field})"
  | .invalidRouting signal pin direction reason =>
    s!"Cannot route {direction} {signal} to {pin}: {reason}"
  | .pinConflict conflict =>
    let contenders := ", ".intercalate conflict.signals
    s!"Pin {conflict.pin} driven by {contenders} (kept {conflict.kept})"

end ConfigWords
