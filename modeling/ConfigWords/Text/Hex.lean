/-! Hexadecimal with capital digits, as words and selectors are written. -/
namespace ConfigWords.Text

def capitalDigit (n : Nat) : Char :=
  if n < 10 then Char.ofNat (48 + n) else Char.ofNat (55 + n)

def significantHex (n : Nat) : List Char :=
  if n = 0 then [] else significantHex (n / 16) ++ [capitalDigit (n % 16)]
termination_by n
decreasing_by omega

def hex (n : Nat) : List Char :=
  if n = 0 then ['0'] else significantHex n

def hexFixed : Nat → Nat → List Char
  | 0, _ => []
  | width + 1, n => hexFixed width (n / 16) ++ [capitalDigit (n % 16)]

/-- A signed number in hexadecimal after `0x`; the sign stands between the two. -/
def hexInt (n : Int) : String :=
  String.ofList ('0' :: 'x' :: (if n < 0 then '-' :: hex n.natAbs else hex n.natAbs))

def hexWord (n : Nat) : String := String.ofList ('0' :: 'x' :: hexFixed 8 n)

theorem hexFixed_length (width n : Nat) : (hexFixed width n).length = width := by
  induction width generalizing n with
  | zero => rfl
  | succ width ih => simp [hexFixed, ih]

example : hexWord 0xFFFFFFFF = "0xFFFFFFFF" := by decide +kernel

end ConfigWords.Text
