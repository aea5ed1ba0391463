import ConfigWords.Clock
import ConfigWords.Proofs.Binary64
import ConfigWords.Proofs.Outcome

/-! When a frequency cannot be estimated.
A run of digits may be too long to be read as a number, and a number may have no double. The second
happens only to numbers that are used: a label without a number gives the fallback at once. -/
namespace ConfigWords.Clock

def inputRun (s : Snapshot) : Option (List Char) :=
  digitsBeforeX? [] (choice s inputDividerSetting defaultInputDivider).toList

def multiplierRun (s : Snapshot) : Option (List Char) :=
  digitsAfter? "by ".toList (choice s multiplierSetting defaultMultiplier).toList

def outputRun (s : Snapshot) : Option (List Char) :=
  digitsBeforeX? [] (choice s outputDividerSetting defaultOutputDivider).toList

def busRun (s : Snapshot) (index : Int) : Option (List Char) :=
  digitsAfter? "/".toList (choice s index "").toList

def Long (run : Option (List Char)) : Prop :=
  ∃ digits, run = some digits ∧ Numeral.digitLimit < digits.length

/-- A number of the system clock is too long, or all three are there, no divider is zero, and one
of them is too large for a double. -/
def SystemStops (s : Snapshot) : Prop :=
  Long (inputRun s) ∨ Long (multiplierRun s) ∨ Long (outputRun s) ∨
    ∃ p m q, inputRun s = some p ∧ multiplierRun s = some m ∧ outputRun s = some q ∧
      Text.ofDigits p ≠ 0 ∧ Text.ofDigits q ≠ 0 ∧
      ∃ n ∈ [p, m, q].map Text.ofDigits, Binary64.overflowThreshold ≤ n

/-- The divisor of a bus is too long, or too large for a double. -/
def DivisorStops (s : Snapshot) (index : Int) : Prop :=
  Long (busRun s index) ∨
    ∃ digits, busRun s index = some digits ∧ Binary64.overflowThreshold ≤ Text.ofDigits digits

theorem exists_number?_error {run : Option (List Char)} (long : Long run) :
    ∃ fault, number? run = .error fault := by
  obtain ⟨digits, rfl, more⟩ := long
  exact ⟨_, by rw [number?, Numeral.ofDigits, if_pos more]; rfl⟩

theorem number?_of_not_long {run : Option (List Char)} (short : ¬ Long run) :
    number? run = .ok (run.map Text.ofDigits) := by
  cases run with
  | none => rfl
  | some digits =>
    have fits : ¬ Numeral.digitLimit < digits.length := fun more => short ⟨digits, rfl, more⟩
    rw [number?, Numeral.ofDigits, if_neg fits]
    rfl

theorem number?_of_long {digits : List Char} (long : Numeral.digitLimit < digits.length) :
    number? (some digits) = .error (.tooManyDigits digits.length) := by
  rw [number?, Numeral.ofDigits, if_pos long]
  rfl

theorem number?_of_fits {digits : List Char} (fits : digits.length ≤ Numeral.digitLimit) :
    number? (some digits) = .ok (some (Text.ofDigits digits)) := by
  apply number?_of_not_long
  rintro ⟨_, ⟨⟩, long⟩
  exact Nat.not_lt_of_le fits long

theorem toDouble_eq_error_iff {n : Nat} :
    (∃ fault, toDouble n = .error fault) ↔ Binary64.overflowThreshold ≤ n := by
  rw [← Binary64.ofInt?_eq_none_iff, toDouble]
  cases Binary64.ofInt? n <;> simp

/-- What the system clock comes to once its numbers are read. -/
def scaled (oscillator : String) : Option Nat → Option Nat → Option Nat → Except ClockFault Binary64
  | some (p + 1), some m, some (q + 1) => do
    let divided := (inputFrequency oscillator).div (← toDouble (p + 1))
    let multiplied := divided.mul (← toDouble m)
    return multiplied.div (← toDouble (q + 1))
  | _, _, _ => return fallbackFrequency

theorem systemFrequency_eq (s : Snapshot) :
    systemFrequency s = (do
      let p ← (number? (inputRun s)).mapError .number
      let m ← (number? (multiplierRun s)).mapError .number
      let q ← (number? (outputRun s)).mapError .number
      scaled (choice s oscillatorSetting defaultOscillator) p m q) := by
  unfold systemFrequency scaled
  rfl

theorem scaled_eq_error_iff {oscillator : String} {p m q : Option Nat} :
    (∃ fault, scaled oscillator p m q = .error fault) ↔
      ∃ a b c, p = some a ∧ m = some b ∧ q = some c ∧ a ≠ 0 ∧ c ≠ 0 ∧
        ∃ n ∈ [a, b, c], Binary64.overflowThreshold ≤ n := by
  simp only [← toDouble_eq_error_iff]
  unfold scaled
  split
  · rename_i a b c
    cases first : toDouble (a + 1) <;> cases second : toDouble b <;>
      cases third : toDouble (c + 1) <;>
      simp [first, second, third, bind, Except.bind, pure, Except.pure]
  · rename_i other
    refine iff_of_false nofun ?_
    rintro ⟨a, b, c, rfl, rfl, rfl, dividend, divisor, _⟩
    obtain ⟨a, rfl⟩ := Nat.exists_eq_succ_of_ne_zero dividend
    obtain ⟨c, rfl⟩ := Nat.exists_eq_succ_of_ne_zero divisor
    exact other a b c rfl rfl rfl

theorem systemFrequency_eq_error_iff (s : Snapshot) :
    (∃ fault, systemFrequency s = .error fault) ↔ SystemStops s := by
  rw [systemFrequency_eq, SystemStops]
  by_cases first : Long (inputRun s)
  · obtain ⟨fault, unread⟩ := exists_number?_error first
    exact iff_of_true ⟨_, by rw [unread]; rfl⟩ (.inl first)
  by_cases second : Long (multiplierRun s)
  · obtain ⟨fault, unread⟩ := exists_number?_error second
    exact iff_of_true ⟨_, by rw [number?_of_not_long first, unread]; rfl⟩ (.inr (.inl second))
  by_cases third : Long (outputRun s)
  · obtain ⟨fault, unread⟩ := exists_number?_error third
    refine iff_of_true ⟨.number fault, ?_⟩ (.inr (.inr (.inl third)))
    rw [number?_of_not_long first, number?_of_not_long second, unread]
    rfl
  simp only [number?_of_not_long first, number?_of_not_long second, number?_of_not_long third,
    first, second, third, false_or, Except.mapError, bind, Except.bind]
  rw [scaled_eq_error_iff]
  cases inputRun s <;> cases multiplierRun s <;> cases outputRun s <;> simp

def usedDivisor (run : Option (List Char)) : Nat :=
  match run.map Text.ofDigits with
  | some (n + 1) => n + 1
  | _ => defaultBusDivisor

theorem exists_busDivisor_error {s : Snapshot} {bus index : Int}
    (known : busSetting? bus = some index) (long : Long (busRun s index)) :
    ∃ fault, busDivisor s bus = .error fault := by
  obtain ⟨fault, unread⟩ := exists_number?_error long
  have read : readNumber busDivisor? (choice s index "") = .error (.number fault) :=
    congrArg (Except.mapError ClockFault.number) unread
  exact ⟨_, by simp only [busDivisor, known, read]; rfl⟩

theorem busDivisor_of_not_long {s : Snapshot} {bus index : Int}
    (known : busSetting? bus = some index) (short : ¬ Long (busRun s index)) :
    busDivisor s bus = .ok (usedDivisor (busRun s index)) := by
  have read : readNumber busDivisor? (choice s index "") =
      .ok ((busRun s index).map Text.ofDigits) :=
    congrArg (Except.mapError ClockFault.number) (number?_of_not_long short)
  simp only [busDivisor, known, read, usedDivisor]
  rcases (busRun s index).map Text.ofDigits with _ | _ | n <;> rfl

theorem overflowThreshold_le_usedDivisor_iff {run : Option (List Char)} :
    Binary64.overflowThreshold ≤ usedDivisor run ↔
      ∃ digits, run = some digits ∧ Binary64.overflowThreshold ≤ Text.ofDigits digits := by
  have small : Binary64.overflowThreshold ≤ defaultBusDivisor ↔ False := by decide +kernel
  have zero : Binary64.overflowThreshold ≤ 0 ↔ False := by decide +kernel
  cases run with
  | none => simp [usedDivisor, small]
  | some digits =>
    cases value : Text.ofDigits digits <;> simp [usedDivisor, value, small, zero]

theorem busFrequency_eq_error_iff (s : Snapshot) (bus : Int) {index : Int}
    (known : busSetting? bus = some index) :
    (∃ fault, busFrequency s bus = .error fault) ↔ SystemStops s ∨ DivisorStops s index := by
  rw [← systemFrequency_eq_error_iff, DivisorStops, busFrequency]
  cases systemFrequency s with
  | error fault => exact iff_of_true ⟨fault, rfl⟩ (.inl ⟨fault, rfl⟩)
  | ok system =>
    by_cases long : Long (busRun s index)
    · obtain ⟨fault, unread⟩ := exists_busDivisor_error known long
      exact iff_of_true ⟨fault, by rw [unread]; rfl⟩ (.inr (.inl long))
    · rw [busDivisor_of_not_long known long, ← overflowThreshold_le_usedDivisor_iff,
        ← toDouble_eq_error_iff]
      cases double : toDouble (usedDivisor (busRun s index)) <;>
        simp [double, long, bind, Except.bind, pure, Except.pure]

end ConfigWords.Clock
