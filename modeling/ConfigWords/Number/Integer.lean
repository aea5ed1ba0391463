import ConfigWords.Text.Blank
import ConfigWords.Text.Digit
import ConfigWords.Text.Quoted

/-! Whole numbers read from text.
A numeral may stand between white space; it has at most one sign and then decimal digits of any
script, with single underscores between digits. -/
namespace ConfigWords

inductive NumberFault
  | badNumeral (text : String)
  | tooManyDigits (count : Nat)
  | notANumber
  | infinite
  | unsuitable
  | unwritable
deriving DecidableEq

namespace NumberFault

def message : NumberFault → String
  | .badNumeral text =>
    "invalid literal for int() with base 10: " ++ ((Text.quoted text).take 200).toString
  | .tooManyDigits count =>
    s!"Exceeds the limit (4300 digits) for integer string conversion: value has {count} digits; " ++
      "use sys.set_int_max_str_digits() to increase the limit"
  | .notANumber => "cannot convert float NaN to integer"
  | .infinite => "cannot convert float infinity to integer"
  | .unsuitable => "the value is no number"
  | .unwritable =>
    "Exceeds the limit (4300 digits) for integer string conversion; " ++
      "use sys.set_int_max_str_digits() to increase the limit"

def isValue : NumberFault → Bool
  | .badNumeral _ | .tooManyDigits _ | .notANumber | .unwritable => true
  | .infinite | .unsuitable => false

end NumberFault

namespace Numeral

def digitLimit : Nat := 4300

/-- The least natural number of more than `digitLimit` digits. -/
def writeBound : Nat := Nat.pow (Nat.pow 10 100) 43

theorem writeBound_eq : writeBound = Nat.pow 10 digitLimit := by
  have limit : digitLimit = 100 * 43 := rfl
  rw [writeBound, limit]
  -- With the exponents left open the powers are not computed.
  generalize 100 = m, 43 = n
  exact (Nat.pow_mul 10 m n).symm

def writable (n : Int) : Bool := n.natAbs < writeBound

/-- The digits in front of a text with single underscores between them, and the rest.
An underscore must stand between two digits. -/
def takeDigits : List Char → Option (List Char × List Char)
  | [] => some ([], [])
  | c :: rest =>
    if Text.isDigit c then
      match rest with
      | '_' :: d :: tail =>
        if Text.isDigit d then
          match takeDigits (d :: tail) with
          | some (digits, rest) => some (c :: digits, rest)
          | none => none
        else none
      | ['_'] => none
      | rest =>
        match takeDigits rest with
        | some (digits, rest) => some (c :: digits, rest)
        | none => none
    else some ([], c :: rest)

def ofDigits (digits : List Char) : Except NumberFault Nat :=
  if digits.length > digitLimit then .error (.tooManyDigits digits.length)
  else .ok (Text.ofDigits digits)

def takeSign : List Char → Bool × List Char
  | '-' :: rest => (true, rest)
  | '+' :: rest => (false, rest)
  | cs => (false, cs)

def read (text : String) : Except NumberFault Int :=
  let (negative, unsigned) := takeSign (text.toList.dropWhile Text.isBlank)
  match takeDigits unsigned with
  | none => .error (.badNumeral text)
  | some (digits, rest) =>
    match ofDigits digits with
    | .error fault => .error fault
    | .ok n =>
      if digits.isEmpty || !rest.all Text.isBlank then .error (.badNumeral text)
      else .ok (if negative then -n else n)

example : (read " +4_2 ").toOption = some 42 := by decide +kernel

end Numeral
end ConfigWords
