import ConfigWords.Proofs.LabelRuns
import ConfigWords.Proofs.Render.Pragmas
import Mathlib.Data.List.Basic

/-! Numbers written into labels.
A number that is printed into a label is read back from it. The pragma line and the clock take the
digits of a multiplier with two patterns, the one fitted to the whole label and the other searched
for, and they take the same ones. -/
namespace ConfigWords

namespace Text

theorem digitValue?_of_isDigit {c : Char} (decimal : c.isDigit = true) :
    digitValue? c = some (c.toNat - '0'.toNat) := by
  have bounds : 0x30 ≤ c.toNat ∧ c.toNat ≤ 0x30 + 9 := Char.isDigit_iff_toNat.1 decimal
  have first : zeroDigits.find? (fun start => start ≤ c.toNat && c.toNat ≤ start + 9) = some 0x30 :=
    List.find?_cons_of_pos (by simp only [bounds, decide_true, Bool.and_self])
  rw [digitValue?, first]
  rfl

theorem isDigit_of_mem_toDigits {n : Nat} {c : Char} (member : c ∈ Nat.toDigits 10 n) :
    isDigit c = true := by
  have decimal := Nat.isDigit_of_mem_toDigits (by decide) (by decide) member
  rw [isDigit, digitValue?_of_isDigit decimal]
  rfl

theorem ofDigits_toDigits (n : Nat) : ofDigits (Nat.toDigits 10 n) = n := by
  have value : ∀ m, ∀ c ∈ Nat.toDigits 10 n,
      10 * m + digitValue c = 10 * m + (c.toNat - '0'.toNat) := by
    intro m c member
    have decimal := Nat.isDigit_of_mem_toDigits (by decide) (by decide) member
    rw [digitValue, digitValue?_of_isDigit decimal, Option.getD_some]
  calc
    ofDigits (Nat.toDigits 10 n) = Nat.ofDigitChars 10 (Nat.toDigits 10 n) 0 :=
      List.foldl_ext _ _ 0 value
    _ = n := Nat.ofDigitChars_toDigits (by decide) (by decide)

end Text

namespace Clock

open Text

theorem slash_not_mem_repr (b : Int) : '/' ∉ b.repr.toList := by
  have printed (n : Nat) : '/' ∉ n.repr.toList := by
    rw [Nat.toList_repr]
    intro member
    exact absurd (isDigit_of_mem_toDigits member) (by decide)
  cases b with
  | ofNat m => exact printed m
  | negSucc m =>
    have signed : (Int.negSucc m).repr = "-" ++ m.succ.repr := rfl
    rw [signed, String.toList_append, List.mem_append, not_or]
    exact ⟨by decide, printed _⟩

section Printed

variable {n : Nat} (short : (Nat.toDigits 10 n).length ≤ Numeral.digitLimit)

include short

theorem number?_toDigits : number? (some (Nat.toDigits 10 n)) = .ok (some n) := by
  rw [number?_of_fits short, ofDigits_toDigits]

theorem number?_behind {m : Char} {marker skipped : List Char} (free : m ∉ skipped) :
    number? (digitsAfter? (m :: marker) (skipped ++ (m :: marker ++ Nat.toDigits 10 n))) =
      .ok (some n) := by
  have decimal : ∀ c ∈ Nat.toDigits 10 n, isDigit c = true := fun _ => isDigit_of_mem_toDigits
  rw [digitsAfter?_skip free, digitsAfter?_marker decimal Nat.toDigits_ne_nil,
    number?_toDigits short]

theorem divider?_printed : divider? s!"{n}x Divider" = .ok (some n) := by
  have label : s!"{n}x Divider".toList = Nat.toDigits 10 n ++ 'x' :: " Divider".toList := by
    change (n.repr ++ "x Divider").toList = _
    simp
  have found : digitsBeforeX? [] s!"{n}x Divider".toList = some (Nat.toDigits 10 n) := by
    rw [label, digitsBeforeX?_next (fun _ => isDigit_of_mem_toDigits) (by decide)]
    exact if_pos ⟨rfl, Nat.toDigits_ne_nil⟩
  rw [divider?, found, number?_toDigits short]

theorem multiplier?_printed : multiplier? s!"PLL Multiply by {n}" = .ok (some n) := by
  have label : s!"PLL Multiply by {n}".toList =
      "PLL Multiply ".toList ++ ("by ".toList ++ Nat.toDigits 10 n) := by
    change ("PLL Multiply by " ++ n.repr).toList = _
    simp
  rw [multiplier?, label]
  exact number?_behind short (by decide)

theorem busDivisor?_printed (b : Int) :
    busDivisor? s!"PBCLK{b} is SYSCLK/{n}" = .ok (some n) := by
  have label : s!"PBCLK{b} is SYSCLK/{n}".toList =
      ("PBCLK" ++ b.repr ++ " is SYSCLK").toList ++ ("/".toList ++ Nat.toDigits 10 n) := by
    change ("PBCLK" ++ b.repr ++ " is SYSCLK/" ++ n.repr).toList = _
    simp
  have free : '/' ∉ ("PBCLK" ++ b.repr ++ " is SYSCLK").toList := by
    simp [slash_not_mem_repr]
  rw [busDivisor?, label]
  exact number?_behind short free

end Printed

/-- The pattern that a label is fitted to as a whole, for its pragma text. -/
def spellingPattern : Pattern := Pattern.fixed Render.multiplierLabel ++ [.digits]

theorem multiplierDigits?_eq_matchWhole (label : String) :
    Render.multiplierDigits? label = spellingPattern.matchWhole label.toList := by
  have pattern : spellingPattern ++ [.stop] =
      Render.multiplierLabel.toList.map .char ++ [.digits, .stop] := by
    rw [spellingPattern, Pattern.fixed, List.append_assoc]
    rfl
  rw [Pattern.matchWhole, pattern, Pattern.matchFront_fixed, Pattern.matchFront_digits_stop,
    Render.multiplierDigits?]
  by_cases head : label.toList.take Render.multiplierLabel.toList.length =
      Render.multiplierLabel.toList <;> simp [head]

/-- The estimate with the multiplier that certain digits spell. -/
def frequencyFrom (s : Snapshot) (digits : List Char) : Except ClockFault Binary64 := do
  let p ← (number? (inputRun s)).mapError .number
  let m ← (Numeral.ofDigits digits).mapError .number
  let q ← (number? (outputRun s)).mapError .number
  scaled (choice s oscillatorSetting defaultOscillator) p (some m) q

theorem systemFrequency_of_multiplierRun {s : Snapshot} {digits : List Char}
    (found : multiplierRun s = some digits) : systemFrequency s = frequencyFrom s digits := by
  rw [systemFrequency_eq, found, number?, frequencyFrom]
  cases Numeral.ofDigits digits <;> rfl

theorem digitsAfter?_spelled {label : String} {digits : List Char}
    (spelled : Render.multiplierDigits? label = some digits) :
    digitsAfter? "by ".toList label.toList = some digits := by
  obtain ⟨nonempty, decimal, text⟩ := Render.multiplierDigits?_eq_some_iff.1 spelled
  have split : Render.multiplierLabel.toList = "PLL Multiply ".toList ++ "by ".toList := by decide
  rw [text, split, List.append_assoc]
  exact (digitsAfter?_skip (by decide) _).trans (digitsAfter?_marker decimal nonempty)

theorem multiplierDigits?_of_pragmaValue? {f : Field} {label : String} {digits : List Char}
    (unlisted : f.pragma? label = none)
    (text : Render.pragmaValue? f label = some ("MUL_" ++ String.ofList digits)) :
    Render.multiplierDigits? label = some digits := by
  rw [Render.pragmaValue?, unlisted] at text
  dsimp only at text
  split at text
  · obtain ⟨other, spelled, same⟩ := Option.map_eq_some_iff.1 text
    have equal : other = digits := by simpa [← String.toList_inj] using same
    rw [spelled, equal]
  · cases text

/-- A number of at most 4300 digits that is printed into a label is read back from it. Where a
pragma text is spelled out by its label, both patterns capture the same digits, and the estimate is
made with them. -/
theorem printed_numbers_read_back :
    (∀ (n : Nat) (b : Int), (Nat.toDigits 10 n).length ≤ 4300 →
      divider? s!"{n}x Divider" = .ok (some n) ∧
      multiplier? s!"PLL Multiply by {n}" = .ok (some n) ∧
      busDivisor? s!"PBCLK{b} is SYSCLK/{n}" = .ok (some n)) ∧
    ∀ (f : Field) (label : String) (digits : List Char), f.pragma? label = none →
      Render.pragmaValue? f label = some ("MUL_" ++ String.ofList digits) →
      spellingPattern.matchWhole label.toList = some digits ∧
      multiplierPattern.search label.toList = some digits ∧
      multiplier? label = (Numeral.ofDigits digits).map some ∧
      ∀ s : Snapshot, s.get? multiplierSetting = some label →
        systemFrequency s = frequencyFrom s digits := by
  constructor
  · intro n b short
    exact ⟨divider?_printed short, multiplier?_printed short, busDivisor?_printed short b⟩
  · intro f label digits unlisted text
    have spelled := multiplierDigits?_of_pragmaValue? unlisted text
    have found := digitsAfter?_spelled spelled
    refine ⟨?_, ?_, ?_, ?_⟩
    · rw [← multiplierDigits?_eq_matchWhole, spelled]
    · exact (search_behind _ _).trans found
    · rw [multiplier?, found, number?]
    · intro s chosen
      have own : multiplierRun s = some digits := by
        rw [multiplierRun, choice, chosen, Option.getD_some, found]
      exact systemFrequency_of_multiplierRun own

def arabicForty : List Char := ['\u0664', '\u0660']

def arabicLabel : String := "PLL Multiply by " ++ String.ofList arabicForty

theorem printed_numbers_read_back_forty :
    (divider? s!"{(40 : Nat)}x Divider" = .ok (some 40) ∧
      multiplier? s!"PLL Multiply by {(40 : Nat)}" = .ok (some 40) ∧
      busDivisor? s!"PBCLK{(2 : Int)} is SYSCLK/{(40 : Nat)}" = .ok (some 40)) ∧
    ∃ d f, Description.ofTree Description.clockTree = .ok d ∧ d.layout.get? 9 = some f ∧
      f.pragma? arabicLabel = none ∧
      Render.pragmaValue? f arabicLabel = some ("MUL_" ++ String.ofList arabicForty) ∧
      multiplierPattern.search arabicLabel.toList = some arabicForty ∧
      multiplier? arabicLabel = .ok (some 40) := by
  refine ⟨printed_numbers_read_back.1 40 2 (by decide), ?_⟩
  obtain ⟨d, f, read, mapped, unlisted, text⟩ : ∃ d f,
      Description.ofTree Description.clockTree = .ok d ∧ d.layout.get? 9 = some f ∧
      f.pragma? arabicLabel = none ∧
      Render.pragmaValue? f arabicLabel = some ("MUL_" ++ String.ofList arabicForty) :=
    ⟨_, _, rfl, rfl, rfl, rfl⟩
  have both := printed_numbers_read_back.2 f arabicLabel arabicForty unlisted text
  exact ⟨d, f, read, mapped, unlisted, text, both.2.1, both.2.2.1.trans (by decide)⟩

end Clock
end ConfigWords
