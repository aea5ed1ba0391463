import ConfigWords.Number.Integer

/-! Why a YAML text has no tree. -/
namespace ConfigWords.Yaml

inductive DateFault
  | year (year : Nat)
  | month
  | day
deriving DecidableEq

def DateFault.message : DateFault → String
  | .year n => s!"year {n} is out of range"
  | .month => "month must be in 1..12"
  | .day => "day is out of range for month"

inductive Fault
  | malformed
  | noCharacter
  /-- An escape names a number beyond the range of characters and of machine integers. -/
  | hugeCharacter
  | noDigits (base : Nat)
  | number (fault : NumberFault)
  | date (fault : DateFault)
deriving DecidableEq

def Fault.message : Fault → String
  | .malformed => "*"
  | .noCharacter => "chr() arg not in range(0x110000)"
  | .hugeCharacter => "the number of a character is too large"
  | .noDigits base => s!"invalid literal for int() with base {base}: ''"
  | .number fault => fault.message
  | .date fault => fault.message

end ConfigWords.Yaml
