import ConfigWords.Number.Decimal
import ConfigWords.Number.Integer

/-! Scalar values of a description: null, truth values, numbers, texts and dates.
Two scalars count as one key when they denote the same number, text or date, whatever their
kinds, so `true`, `1` and `1.0` are one key. A look-up by `==` finds every key again, also NaN;
a comparison by `agrees` tells NaN from itself.
Binary data, times of day and sets, which a document may hold as well, have no form here. -/
namespace ConfigWords

inductive Scalar
  | null
  | bool (value : Bool)
  | int (value : Int)
  | float (value : Binary64)
  | text (value : String)
  | date (year month day : Nat)
deriving DecidableEq, Inhabited

namespace Scalar

/-- What a scalar is as a key: numbers of all kinds by their exact value. -/
inductive Key
  | null
  | number (value : Rat)
  | infinite (negative : Bool)
  | nan
  | text (value : String)
  | date (year month day : Nat)
deriving DecidableEq

def key : Scalar → Key
  | .null => .null
  | .bool b => .number (if b then 1 else 0)
  | .int n => .number n
  | .float (.finite negative m e) =>
    let magnitude := mkRat (Binary64.fraction m e).1 (Binary64.fraction m e).2
    .number (if negative then -magnitude else magnitude)
  | .float (.infinite negative) => .infinite negative
  | .float .nan => .nan
  | .text s => .text s
  | .date y m d => .date y m d

def same (a b : Scalar) : Bool := decide (a.key = b.key)

instance (priority := high) : BEq Scalar := ⟨same⟩

theorem beq_iff {a b : Scalar} : (a == b) = true ↔ a.key = b.key := decide_eq_true_iff

instance : EquivBEq Scalar where
  rfl := beq_iff.2 rfl
  symm h := beq_iff.2 (beq_iff.1 h).symm
  trans h g := beq_iff.2 ((beq_iff.1 h).trans (beq_iff.1 g))

def isNaN : Scalar → Bool
  | .float .nan => true
  | _ => false

def agrees (a b : Scalar) : Bool := a == b && !a.isNaN

theorem isNaN_iff {a : Scalar} : a.isNaN = true ↔ a.key = .nan := by
  cases a with
  | float x => cases x <;> simp [isNaN, key]
  | _ => simp [isNaN, key]

theorem isNaN_congr {a b : Scalar} (same : (a == b) = true) : a.isNaN = b.isNaN := by
  rw [Bool.eq_iff_iff, isNaN_iff, isNaN_iff, beq_iff.1 same]

theorem agrees_iff {a b : Scalar} : a.agrees b = true ↔ (a == b) = true ∧ a.isNaN = false := by
  simp [agrees]

theorem agrees_comm (a b : Scalar) : a.agrees b = b.agrees a := by
  unfold agrees
  rw [BEq.comm]
  cases same : b == a with
  | true => rw [isNaN_congr same]
  | false => rfl

theorem agrees_trans {a b c : Scalar} (first : a.agrees b = true) (second : b.agrees c = true) :
    a.agrees c = true :=
  agrees_iff.2 ⟨BEq.trans (agrees_iff.1 first).1 (agrees_iff.1 second).1, (agrees_iff.1 first).2⟩

def padded (width n : Nat) : String :=
  let digits := (Nat.toDigits 10 n)
  String.ofList (List.replicate (width - digits.length) '0' ++ digits)

def quoted : Scalar → String
  | .null => "None"
  | .bool b => if b then "True" else "False"
  | .int n => toString n
  | .float x => x.shortest
  | .text s => Text.quoted s
  | .date y m d => s!"datetime.date({y}, {m}, {d})"

def plain : Scalar → String
  | .text s => s
  | .date y m d => padded 4 y ++ "-" ++ padded 2 m ++ "-" ++ padded 2 d
  | other => other.quoted

def writable : Scalar → Bool
  | .int n => Numeral.writable n
  | _ => true

def truth : Scalar → Bool
  | .null => false
  | .bool b => b
  | .int n => n != 0
  | .float x => !x.isZero
  | .text s => !s.isEmpty
  | .date _ _ _ => true

def toInt : Scalar → Except NumberFault Int
  | .bool b => .ok (if b then 1 else 0)
  | .int n => .ok n
  | .float (.finite negative m e) => .ok (Binary64.truncate negative m e)
  | .float (.infinite _) => .error .infinite
  | .float .nan => .error .notANumber
  | .text s => Numeral.read s
  | .null | .date _ _ _ => .error .unsuitable

example : (Scalar.bool true == Scalar.int 1) = true := by decide +kernel

end Scalar
end ConfigWords
