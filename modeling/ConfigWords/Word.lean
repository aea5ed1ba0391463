import ConfigWords.Text.Hex

/-! Words of 32 bits inside whole numbers.
Arithmetic on words is unbounded; a word is cut to 32 bits only where it leaves. -/
namespace ConfigWords.Word

abbrev bits : Nat := 32

def span (width : Nat) : Nat := 1 <<< width

def erased : Int := 0xFFFFFFFF

/-- The lowest 32 bits of a whole number, a negative one taken in two's complement. -/
def cut (n : Int) : Nat := (n % span bits).toNat

def hex (n : Int) : String := Text.hexWord (cut n)

inductive MaskFault
  | negativeShift
  | shiftTooLarge
deriving DecidableEq

def MaskFault.message : MaskFault → String
  | .negativeShift => "negative shift count"
  | .shiftTooLarge => "too many digits in integer"

def shiftLimit : Int := 0x8000000000000000

def mask (start width : Int) : Except MaskFault Nat :=
  if width < 0 then .error .negativeShift
  else if width ≥ shiftLimit then .error .shiftTooLarge
  else if start < 0 then .error .negativeShift
  else if width = 0 then .ok 0
  else if start ≥ shiftLimit then .error .shiftTooLarge
  else .ok ((span width.toNat - 1) * span start.toNat)

theorem span_eq (width : Nat) : span width = Nat.pow 2 width := Nat.one_shiftLeft width

theorem span_pos (width : Nat) : 0 < span width := span_eq width ▸ Nat.two_pow_pos width

theorem span_add (a b : Nat) : span (a + b) = span a * span b := by
  rw [span_eq, span_eq, span_eq]
  exact Nat.pow_add 2 a b

theorem span_bits : span bits = 0x100000000 := rfl

theorem cut_lt (n : Int) : cut n < span bits := by
  unfold cut; rw [span_bits]; omega

end ConfigWords.Word
