import ConfigWords.Text.Digit
import Mathlib.Data.List.Infix

/-! Patterns of fixed characters and one run of digits, which a match captures.
A run takes as many digits as it can and gives them back one by one until the rest of the pattern
fits; a search tries every place of the text from the left. -/
namespace ConfigWords.Text

inductive Piece
  | char (c : Char)
  | digits
  | stop

abbrev Pattern := List Piece

namespace Pattern

def matchDigits (rest : List Char → Option (List Char)) : List Char → Option (List Char)
  | [] => none
  | c :: text => if isDigit c then ((matchDigits rest text).or (rest text)).map (c :: ·) else none

/-- The digits that the pattern captures at the front of a text. -/
def matchFront : Pattern → List Char → Option (List Char)
  | [] => fun _ => some []
  | .char c :: rest => fun
    | [] => none
    | d :: text => if d = c then matchFront rest text else none
  | .digits :: rest => matchDigits (matchFront rest)
  | .stop :: rest => fun text => if text = [] then matchFront rest text else none

/-- The digits that the pattern captures where it first fits. -/
def search (p : Pattern) : List Char → Option (List Char)
  | [] => p.matchFront []
  | c :: text => (p.matchFront (c :: text)).or (search p text)

/-- The digits that the pattern captures when it fits the whole text. -/
def matchWhole (p : Pattern) (text : List Char) : Option (List Char) := matchFront (p ++ [.stop]) text

def fixed (text : String) : Pattern := text.toList.map .char

theorem matchFront_fixed (marker : List Char) (p : Pattern) (text : List Char) :
    matchFront (marker.map .char ++ p) text =
      if text.take marker.length = marker then p.matchFront (text.drop marker.length) else none := by
  induction marker generalizing text with
  | nil => simp
  | cons m marker ih =>
    cases text with
    | nil => rfl
    | cons c text =>
      rw [List.map_cons, List.cons_append, matchFront]
      by_cases same : c = m <;> simp [same, ih]

theorem matchDigits_run {rest : List Char → Option (List Char)} {run text : List Char}
    (decimal : ∀ c ∈ run, isDigit c = true) (nonempty : run ≠ [])
    (ends : ∀ c, [c] <+: text → isDigit c = false)
    (closed : ∀ c tail, isDigit c = true → rest (c :: tail) = none) :
    matchDigits rest (run ++ text) = (rest text).map (run ++ ·) := by
  have stops : matchDigits rest text = none := by
    cases text with
    | nil => rfl
    | cons c text => simp [matchDigits, ends c ⟨text, rfl⟩]
  induction run with
  | nil => exact absurd rfl nonempty
  | cons c run ih =>
    obtain ⟨digit, later⟩ := List.forall_mem_cons.1 decimal
    rw [List.cons_append, matchDigits, if_pos digit]
    cases run with
    | nil => simp [stops]
    | cons d run =>
      have next : rest (d :: run ++ text) = none := closed d _ (later d List.mem_cons_self)
      rw [ih later (List.cons_ne_nil d run), next, Option.or_none, Option.map_map]
      rfl

theorem matchFront_digits (text : List Char) :
    matchFront [.digits] text =
      if text.takeWhile isDigit ≠ [] then some (text.takeWhile isDigit) else none := by
  induction text with
  | nil => rfl
  | cons c text ih =>
    have step : matchFront [.digits] (c :: text) =
        if isDigit c then ((matchFront [.digits] text).or (some [])).map (c :: ·) else none := rfl
    rw [step, ih]
    by_cases digit : isDigit c = true
    · by_cases more : text.takeWhile isDigit = [] <;> simp [digit, more]
    · simp [digit]

theorem matchFront_digits_stop (text : List Char) :
    matchFront [.digits, .stop] text =
      if text ≠ [] ∧ text.all isDigit = true then some text else none := by
  induction text with
  | nil => rfl
  | cons c text ih =>
    have step : matchFront [.digits, .stop] (c :: text) =
        if isDigit c then ((matchFront [.digits, .stop] text).or
          (if text = [] then some [] else none)).map (c :: ·) else none := rfl
    rw [step, ih]
    by_cases digit : isDigit c = true
    · by_cases last : text = []
      · simp [digit, last]
      · by_cases decimal : text.all isDigit = true <;> simp_all
    · simp [digit]

end Pattern
end ConfigWords.Text
