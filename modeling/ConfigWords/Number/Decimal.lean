import ConfigWords.Number.Binary64

/-! Decimal texts of doubles.
`shortest` takes the fewest digits that read back as the same double; `general` takes six
significant digits. Both write positionally within a range of exponents and with a two-digit
exponent outside it. -/
namespace ConfigWords

namespace Binary64

/-- The exponent `p` with `10 ^ p ≤ num / den < 10 ^ (p + 1)`, for positive arguments. -/
def floorLogTen (num den : Nat) : Int :=
  let guess : Int := floorLog num den * 30103 / 100000
  let reaches (p : Int) : Bool := den * Nat.pow 10 p.toNat ≤ num * Nat.pow 10 (-p).toNat
  if reaches (guess + 1) then guess + 1 else if reaches guess then guess else guess - 1

structure Decimal where
  digits : Nat
  scale : Int
deriving DecidableEq

/-- The points of the grid of step `10 ^ scale` just below and just above a fraction, the nearer
first; a tie goes to the even one. -/
def gridNeighbours (num den : Nat) (scale : Int) : List Decimal :=
  let n := num * Nat.pow 10 (-scale).toNat
  let d := den * Nat.pow 10 scale.toNat
  let below := n / d
  let near := divideEven n d
  let far := if near = below then below + 1 else below
  [⟨near, scale⟩, ⟨far, scale⟩]

/-- The decimal with the fewest digits, seventeen at most, among those that round to the double
of the given magnitude; of two, the nearer. -/
def shortestDecimal (mantissa : Nat) (exponent : Int) : Decimal :=
  let (num, den) := fraction mantissa exponent
  let top := floorLogTen num den
  let readsBack (d : Decimal) : Bool :=
    ofDecimal false d.digits d.scale == .finite false mantissa exponent
  let candidates := (List.range 17).flatMap fun (k : Nat) => gridNeighbours num den (top - k)
  (candidates.find? readsBack).getD ⟨num, 0⟩

def significantDecimal (count : Nat) (num den : Nat) : Decimal :=
  let scale := floorLogTen num den - (count - 1)
  ⟨divideEven (num * Nat.pow 10 (-scale).toNat) (den * Nat.pow 10 scale.toNat), scale⟩

structure DecimalStyle where
  lowest : Int
  highest : Int
  keepsPoint : Bool

def significant (d : Decimal) : List Char :=
  let digits := (Nat.toDigits 10 d.digits).reverse.dropWhile (· == '0') |>.reverse
  if digits.isEmpty then ['0'] else digits

def DecimalStyle.render (style : DecimalStyle) (d : Decimal) : List Char :=
  let digits := significant d
  let exponent : Int := (Nat.toDigits 10 d.digits).length - 1 + d.scale
  if style.lowest ≤ exponent && exponent < style.highest then
    if exponent < 0 then
      '0' :: '.' :: List.replicate (-exponent - 1).toNat '0' ++ digits
    else
      let whole := exponent.toNat + 1
      let head := digits.take whole ++ List.replicate (whole - digits.length) '0'
      let tail := digits.drop whole
      if tail.isEmpty then head ++ (if style.keepsPoint then ['.', '0'] else [])
      else head ++ '.' :: tail
  else
    let tail := digits.drop 1
    let magnitude := Nat.toDigits 10 exponent.natAbs
    let padded := if magnitude.length < 2 then '0' :: magnitude else magnitude
    digits.take 1 ++ (if tail.isEmpty then [] else '.' :: tail) ++
      'e' :: (if exponent < 0 then '-' else '+') :: padded

/-- Positional from `1e-04` up to below `1e16`, whole numbers with `.0`. -/
def shortestStyle : DecimalStyle := ⟨-4, 16, true⟩

/-- Positional from `1e-04` up to below `1e6`, whole numbers bare. -/
def generalStyle : DecimalStyle := ⟨-4, 6, false⟩

def renderWith (style : DecimalStyle) (pick : Nat → Int → Decimal) : Binary64 → String
  | .nan => "nan"
  | .infinite negative => if negative then "-inf" else "inf"
  | .finite negative m e =>
    let decimal : Decimal := if m = 0 then ⟨0, 0⟩ else pick m e
    String.ofList ((if negative then ['-'] else []) ++ style.render decimal)

def shortest (x : Binary64) : String := renderWith shortestStyle shortestDecimal x

def general (x : Binary64) : String :=
  renderWith generalStyle (fun m e => significantDecimal 6 (fraction m e).1 (fraction m e).2) x

example : shortest (ofDecimal false 1 16) = "1e+16" := by decide +kernel

example : shortest (ofDecimal true 15 (-6)) = "-1.5e-05" := by decide +kernel

example : general (ofDecimal false 12345678 (-1)) = "1.23457e+06" := by decide +kernel

end Binary64
end ConfigWords
