/-! Double precision numbers as exact values: a sign, a whole mantissa and a power of two.
Every operation is the exact rational result rounded once, to the nearest double and on a tie
to the even mantissa. -/
namespace ConfigWords

/-- A double: `± mantissa · 2 ^ exponent`, an infinity, or not a number.
Values built by `round` have a mantissa below `2 ^ 53` and an exponent from -1074 to 971; the
mantissa is at least `2 ^ 52` unless the exponent is -1074. -/
inductive Binary64
  | finite (negative : Bool) (mantissa : Nat) (exponent : Int)
  | infinite (negative : Bool)
  | nan
deriving DecidableEq, Inhabited

namespace Binary64

def hiddenBit : Nat := 0x10000000000000

/-- The quotient rounded to the nearest whole number, a tie to the even one. -/
def divideEven (num den : Nat) : Nat :=
  let q := num / den
  let twice := 2 * (num % den)
  if twice < den then q
  else if den < twice then q + 1
  else q + q % 2

/-- The exponent `e` with `2 ^ e ≤ num / den < 2 ^ (e + 1)`, for positive arguments. -/
def floorLog (num den : Nat) : Int :=
  let guess : Int := num.log2 - den.log2
  if num <<< (-guess).toNat < den <<< guess.toNat then guess - 1 else guess

def round (negative : Bool) (num den : Nat) : Binary64 :=
  if num = 0 then .finite negative 0 (-1074)
  else
    let exponent := max (floorLog num den - 52) (-1074)
    let mantissa := divideEven (num <<< (-exponent).toNat) (den <<< exponent.toNat)
    let carried := mantissa = 2 * hiddenBit
    let mantissa := if carried then hiddenBit else mantissa
    let exponent := if carried then exponent + 1 else exponent
    if exponent > 971 then .infinite negative else .finite negative mantissa exponent

def fraction (mantissa : Nat) (exponent : Int) : Nat × Nat :=
  (mantissa <<< exponent.toNat, 1 <<< (-exponent).toNat)

def ofInt? (n : Int) : Option Binary64 :=
  match round (n < 0) n.natAbs 1 with
  | .infinite _ => none
  | x => some x

def ofNat (n : Nat) : Binary64 := round false n 1

/-- The double nearest to `± digits · 10 ^ scale`.
A scale far outside the range of doubles gives zero or infinity at once. -/
def ofDecimal (negative : Bool) (digits : Nat) (scale : Int) : Binary64 :=
  if digits = 0 then .finite negative 0 (-1074)
  else if digits.log2 / 4 + scale > 400 then .infinite negative
  else if digits.log2 + scale < -800 then .finite negative 0 (-1074)
  else round negative (digits * Nat.pow 10 scale.toNat) (Nat.pow 10 (-scale).toNat)

def negative : Binary64 → Bool
  | .finite negative _ _ => negative
  | .infinite negative => negative
  | .nan => false

def neg : Binary64 → Binary64
  | .finite negative m e => .finite (!negative) m e
  | .infinite negative => .infinite (!negative)
  | .nan => .nan

def mul : Binary64 → Binary64 → Binary64
  | .finite n₁ m₁ e₁, .finite n₂ m₂ e₂ =>
    let a := fraction m₁ e₁
    let b := fraction m₂ e₂
    round (n₁ != n₂) (a.1 * b.1) (a.2 * b.2)
  | .nan, _ => .nan
  | _, .nan => .nan
  | .infinite n₁, .finite n₂ m₂ _ => if m₂ = 0 then .nan else .infinite (n₁ != n₂)
  | .finite n₁ m₁ _, .infinite n₂ => if m₁ = 0 then .nan else .infinite (n₁ != n₂)
  | .infinite n₁, .infinite n₂ => .infinite (n₁ != n₂)

def div : Binary64 → Binary64 → Binary64
  | .finite n₁ m₁ e₁, .finite n₂ m₂ e₂ =>
    if m₂ = 0 then if m₁ = 0 then .nan else .infinite (n₁ != n₂)
    else
      let a := fraction m₁ e₁
      let b := fraction m₂ e₂
      round (n₁ != n₂) (a.1 * b.2) (a.2 * b.1)
  | .nan, _ => .nan
  | _, .nan => .nan
  | .infinite n₁, .finite n₂ _ _ => .infinite (n₁ != n₂)
  | .finite n₁ _ _, .infinite n₂ => .finite (n₁ != n₂) 0 (-1074)
  | .infinite _, .infinite _ => .nan

/-- The sum of two doubles; equal and opposite summands give positive zero. -/
def add : Binary64 → Binary64 → Binary64
  | .finite n₁ m₁ e₁, .finite n₂ m₂ e₂ =>
    let a := fraction m₁ e₁
    let b := fraction m₂ e₂
    let signed (negative : Bool) (n : Nat) : Int := if negative then -n else n
    let sum := signed n₁ (a.1 * b.2) + signed n₂ (b.1 * a.2)
    if sum = 0 then .finite (n₁ && n₂) 0 (-1074)
    else round (sum < 0) sum.natAbs (a.2 * b.2)
  | .nan, _ => .nan
  | _, .nan => .nan
  | .infinite n₁, .infinite n₂ => if n₁ = n₂ then .infinite n₁ else .nan
  | .infinite n₁, .finite _ _ _ => .infinite n₁
  | .finite _ _ _, .infinite n₂ => .infinite n₂

def truncate (negative : Bool) (mantissa : Nat) (exponent : Int) : Int :=
  let magnitude := (fraction mantissa exponent).1 / (fraction mantissa exponent).2
  if negative then -magnitude else magnitude

def isZero : Binary64 → Bool
  | .finite _ m _ => m == 0
  | _ => false

def signBit (negative : Bool) : Nat := if negative then 0x8000000000000000 else 0

/-- The 64 bits of the interchange format: sign, eleven bits of exponent, 52 of mantissa. -/
def toBits : Binary64 → Nat
  | .finite negative m e =>
    let biased := if m < hiddenBit then m else (e + 1075).toNat * hiddenBit + (m - hiddenBit)
    signBit negative + biased
  | .infinite negative => signBit negative + 0x7FF0000000000000
  | .nan => 0x7FF8000000000000

example : toBits (ofNat 200) = 0x4069000000000000 := by decide +kernel

end Binary64
end ConfigWords
