import ConfigWords.Scalar
import ConfigWords.Yaml.Fault
import ConfigWords.Yaml.Character

/-! What a plain scalar denotes: null, a truth value, a number, a date, or else its own text.
Numbers may hold underscores, and numbers of several parts separated by colons are read in
base 60. -/
namespace ConfigWords.Yaml

def nullWords : List String := ["", "~", "null", "Null", "NULL"]

def trueWords : List String :=
  ["yes", "Yes", "YES", "true", "True", "TRUE", "on", "On", "ON"]

def falseWords : List String :=
  ["no", "No", "NO", "false", "False", "FALSE", "off", "Off", "OFF"]

def isDecimal (c : Char) : Bool := '0' ≤ c && c ≤ '9'

def isDecimalRow (cs : List Char) : Bool := cs.all fun c => isDecimal c || c == '_'

def dropUnderscores (cs : List Char) : List Char := cs.filter (· != '_')

def decimalValue (cs : List Char) : Nat := cs.foldl (fun n c => 10 * n + (c.toNat - 48)) 0

def binaryValue (base : Nat) (cs : List Char) : Except Fault Nat :=
  if cs.isEmpty then .error (.noDigits base)
  else .ok (cs.foldl (fun n c => base * n + (hexValue? c).getD 0) 0)

def boundedDecimal (cs : List Char) : Except Fault Nat :=
  if cs.length > Numeral.digitLimit then .error (.number (.tooManyDigits cs.length))
  else .ok (decimalValue cs)

def colonParts : List Char → List (List Char)
  | [] => [[]]
  | ':' :: rest => [] :: colonParts rest
  | c :: rest =>
    match colonParts rest with
    | [] => [[c]]
    | part :: parts => (c :: part) :: parts

def isSixty (part : List Char) : Bool :=
  match part with
  | [d] => isDecimal d
  | [t, d] => '0' ≤ t && t ≤ '5' && isDecimal d
  | _ => false

def isPositiveRow (cs : List Char) : Bool :=
  match cs with
  | [] => false
  | c :: rest => '1' ≤ c && c ≤ '9' && isDecimalRow rest

def integer? (cs : List Char) : Option (Except Fault Nat) :=
  match cs with
  | '0' :: 'b' :: rest =>
    if !rest.isEmpty && rest.all fun c => c == '0' || c == '1' || c == '_' then
      some (binaryValue 2 (dropUnderscores rest))
    else none
  | '0' :: 'x' :: rest =>
    if !rest.isEmpty && rest.all fun c => (hexValue? c).isSome || c == '_' then
      some (binaryValue 16 (dropUnderscores rest))
    else none
  | ['0'] => some (.ok 0)
  | '0' :: rest =>
    if rest.all fun c => ('0' ≤ c && c ≤ '7') || c == '_' then
      some (binaryValue 8 (dropUnderscores cs))
    else none
  | cs =>
    if isPositiveRow cs then some (boundedDecimal (dropUnderscores cs))
    else
      match colonParts cs with
      | first :: second :: more =>
        if isPositiveRow first && (second :: more).all isSixty then
          some ((boundedDecimal (dropUnderscores first)).map fun n =>
            (second :: more).foldl (fun n part => 60 * n + decimalValue part) n)
        else none
      | _ => none

def exponent? (cs : List Char) : Option Int :=
  match cs with
  | [] => some 0
  | e :: sign :: digits =>
    if (e == 'e' || e == 'E') && (sign == '+' || sign == '-') && !digits.isEmpty &&
        digits.all isDecimal then
      some (if sign == '-' then -(decimalValue digits : Int) else decimalValue digits)
    else none
  | _ => none

def decimalFloat (whole fraction : List Char) (exponent : Int) : Binary64 :=
  let digits := dropUnderscores (whole ++ fraction)
  Binary64.ofDecimal false (decimalValue digits) (exponent - (dropUnderscores fraction).length)

/-- The sum of parts in base 60, the last of which is a float. -/
def sixtyFloat (parts : List Nat) (last : Binary64) : Binary64 :=
  let terms := last :: parts.reverse.map Binary64.ofNat
  (terms.foldl (fun (acc : Binary64 × Nat) term =>
    (acc.1.add (term.mul (.ofNat acc.2)), acc.2 * 60)) (Binary64.ofNat 0, 1)).1

def float? (cs : List Char) (signed : Bool) : Option Binary64 :=
  let text := String.ofList cs
  if text ∈ [".inf", ".Inf", ".INF"] then some (.infinite false)
  else if text ∈ [".nan", ".NaN", ".NAN"] then if signed then none else some .nan
  else
    let whole := cs.takeWhile (· != '.')
    match cs.dropWhile (· != '.') with
    | [] => none
    | _ :: rest =>
      let fraction := rest.takeWhile fun c => isDecimal c || c == '_'
      match exponent? (rest.dropWhile fun c => isDecimal c || c == '_') with
      | none => none
      | some exponent =>
        let plainWhole := !whole.isEmpty && isDecimalRow whole && whole.head? != some '_'
        let plainFraction := whole.isEmpty && !signed && !fraction.isEmpty &&
          fraction.head? != some '_'
        if plainWhole || plainFraction then some (decimalFloat whole fraction exponent)
        else
          match colonParts whole with
          | first :: second :: more =>
            let parts := second :: more
            let last := parts.getLast (List.cons_ne_nil _ _)
            if !first.isEmpty && isDecimalRow first && first.head? != some '_' &&
                parts.all isSixty && (rest.length == fraction.length) then
              some (sixtyFloat
                (decimalValue (dropUnderscores first) :: parts.dropLast.map decimalValue)
                (decimalFloat last fraction 0))
            else none
          | _ => none

def daysIn (year month : Nat) : Nat :=
  if month = 2 then
    if year % 4 = 0 ∧ (year % 100 ≠ 0 ∨ year % 400 = 0) then 29 else 28
  else if month = 4 ∨ month = 6 ∨ month = 9 ∨ month = 11 then 30
  else 31

def date (year month day : Nat) : Except Fault Scalar :=
  if year = 0 then .error (.date (.year year))
  else if month < 1 ∨ 12 < month then .error (.date .month)
  else if day < 1 ∨ daysIn year month < day then .error (.date .day)
  else .ok (.date year month day)

def date? (cs : List Char) : Option (Except Fault Scalar) :=
  match cs with
  | [y₁, y₂, y₃, y₄, '-', m₁, m₂, '-', d₁, d₂] =>
    if [y₁, y₂, y₃, y₄, m₁, m₂, d₁, d₂].all isDecimal then
      some (date (decimalValue [y₁, y₂, y₃, y₄]) (decimalValue [m₁, m₂]) (decimalValue [d₁, d₂]))
    else none
  | _ => none

def plainScalar (content : String) : Except Fault Scalar :=
  let signed (r : Char) := r == '-' || r == '+'
  let cs := content.toList
  let negative := cs.head? == some '-'
  let hasSign := cs.head?.any signed
  let magnitude := if hasSign then cs.drop 1 else cs
  if content ∈ nullWords then .ok .null
  else if content ∈ trueWords then .ok (.bool true)
  else if content ∈ falseWords then .ok (.bool false)
  else
    match date? cs, float? magnitude hasSign, integer? magnitude with
    | some d, _, _ => d
    | none, some x, _ => .ok (.float (if negative then x.neg else x))
    | none, none, some n => n.map fun (n : Nat) => .int (if negative then -n else n)
    | none, none, none => .ok (.text content)

end ConfigWords.Yaml
