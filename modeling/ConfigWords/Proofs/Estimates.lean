import ConfigWords.Proofs.Clock
import ConfigWords.Proofs.LabelSearch

/-! What a clock estimate comes to.
Labels that do not follow the convention give the fallback, and a divisor is never zero, so an
estimate is a number wherever it does not stop. It stops at numbers that are too long to be read or
too large for a double, and at nothing else. -/
namespace ConfigWords.Clock

open Text

def inputLabel (s : Snapshot) : String := choice s inputDividerSetting defaultInputDivider

def multiplierLabel (s : Snapshot) : String := choice s multiplierSetting defaultMultiplier

def outputLabel (s : Snapshot) : String := choice s outputDividerSetting defaultOutputDivider

def Unclear (s : Snapshot) : Prop :=
  ¬ DigitBeforeX (inputLabel s).toList ∨ ¬ DigitAfter "by ".toList (multiplierLabel s).toList ∨
    ¬ DigitBeforeX (outputLabel s).toList ∨
    (inputRun s).map ofDigits = some 0 ∨ (outputRun s).map ofDigits = some 0

def NoDivisor (s : Snapshot) (index : Int) : Prop :=
  ¬ DigitAfter "/".toList (choice s index "").toList ∨ (busRun s index).map ofDigits = some 0

/-- A number has too many digits to be read, or no double. -/
inductive Overrun : ClockFault → Prop
  | tooLong (count : Nat) (more : Numeral.digitLimit < count) :
      Overrun (.number (.tooManyDigits count))
  | tooLarge : Overrun .tooLarge

/-- The outcome is an overrun where the condition holds, and a number elsewhere. -/
inductive StopsIf (stops : Prop) : Except ClockFault Binary64 → Prop
  | number (passes : ¬ stops) (x : Binary64) (number : x ≠ .nan) : StopsIf stops (.ok x)
  | overrun (stopped : stops) (fault : ClockFault) (overrun : Overrun fault) :
      StopsIf stops (.error fault)

theorem number?_error {run : Option (List Char)} {fault : NumberFault}
    (stopped : number? run = .error fault) : Overrun (.number fault) := by
  cases run with
  | none => cases stopped
  | some digits =>
    by_cases more : digits.length > Numeral.digitLimit
    · rw [number?, Numeral.ofDigits, if_pos more] at stopped
      cases stopped
      exact .tooLong _ more
    · rw [number?, Numeral.ofDigits, if_neg more] at stopped
      cases stopped

theorem toDouble_error {n : Nat} {fault : ClockFault} (stopped : toDouble n = .error fault) :
    Overrun fault := by
  unfold toDouble at stopped
  split at stopped
  · cases stopped
  · cases stopped
    exact .tooLarge

theorem ofInt?_of_toDouble {n : Nat} {x : Binary64} (found : toDouble n = .ok x) :
    Binary64.ofInt? n = some x := by
  unfold toDouble at found
  split at found
  · cases found
    assumption
  · cases found

theorem exists_inputFrequency (oscillator : String) :
    ∃ m e, inputFrequency oscillator = .finite false m e ∧ (m <<< e.toNat).log2 < 100 := by
  have internal : internalFrequency = .finite false 0x10000000000000 (-49) := by decide +kernel
  have crystal : crystalFrequency = .finite false 0x18000000000000 (-48) := by decide +kernel
  unfold inputFrequency
  split
  · exact ⟨_, _, internal, by decide +kernel⟩
  · exact ⟨_, _, crystal, by decide +kernel⟩

theorem scaled_ne_nan {oscillator : String} {p m q : Option Nat} {x : Binary64}
    (done : scaled oscillator p m q = .ok x) : x ≠ .nan := by
  unfold scaled at done
  split at done
  · rename_i p m q
    obtain ⟨first, divisor, done⟩ := bind_eq_ok.1 done
    obtain ⟨second, factor, done⟩ := bind_eq_ok.1 done
    obtain ⟨third, last, done⟩ := bind_eq_ok.1 done
    cases pure_eq_ok.1 done
    obtain ⟨m₁, e₁, input, small⟩ := exists_inputFrequency oscillator
    obtain ⟨m₂, e₂, rfl, nonzero, coarse⟩ :=
      Binary64.exists_finite_of_ofInt? (Nat.succ_ne_zero p) (ofInt?_of_toDouble divisor)
    obtain ⟨_, m₃, e₃, rfl⟩ := Binary64.finite_of_ofInt? (ofInt?_of_toDouble factor)
    obtain ⟨m₄, e₄, rfl, positive, _⟩ :=
      Binary64.exists_finite_of_ofInt? (Nat.succ_ne_zero q) (ofInt?_of_toDouble last)
    -- The first quotient is finite, so the product has no infinity times zero.
    obtain ⟨m₅, e₅, divided⟩ := Binary64.exists_finite_div small nonzero coarse false false
    rw [input, divided]
    exact Binary64.div_ne_nan (Binary64.round_ne_nan _ _ _) false positive e₄
  · cases done
    decide +kernel

theorem scaled_error {oscillator : String} {p m q : Option Nat} {fault : ClockFault}
    (stopped : scaled oscillator p m q = .error fault) : Overrun fault := by
  unfold scaled at stopped
  split at stopped
  · rcases bind_eq_error.1 stopped with first | ⟨_, _, stopped⟩
    · exact toDouble_error first
    · rcases bind_eq_error.1 stopped with second | ⟨_, _, stopped⟩
      · exact toDouble_error second
      · rcases bind_eq_error.1 stopped with third | ⟨_, _, done⟩
        · exact toDouble_error third
        · cases done
  · cases stopped

theorem stopsIf_of {outcome : Except ClockFault Binary64} {stops : Prop}
    (error_iff : (∃ fault, outcome = .error fault) ↔ stops)
    (ok : ∀ x, outcome = .ok x → x ≠ .nan)
    (error : ∀ fault, outcome = .error fault → Overrun fault) : StopsIf stops outcome := by
  cases outcome with
  | ok x =>
    refine .number (fun stopped => ?_) x (ok x rfl)
    obtain ⟨_, impossible⟩ := error_iff.2 stopped
    cases impossible
  | error fault => exact .overrun (error_iff.1 ⟨fault, rfl⟩) fault (error fault rfl)

theorem readNumber_error {run : Option (List Char)} {fault : ClockFault}
    (stopped : (number? run).mapError .number = .error fault) : Overrun fault := by
  obtain ⟨_, cause, rfl⟩ := mapError_eq_error.1 stopped
  exact number?_error cause

theorem systemFrequency_ne_nan {s : Snapshot} {x : Binary64} (done : systemFrequency s = .ok x) :
    x ≠ .nan := by
  rw [systemFrequency_eq] at done
  obtain ⟨_, _, done⟩ := bind_eq_ok.1 done
  obtain ⟨_, _, done⟩ := bind_eq_ok.1 done
  obtain ⟨_, _, done⟩ := bind_eq_ok.1 done
  exact scaled_ne_nan done

theorem systemFrequency_error {s : Snapshot} {fault : ClockFault}
    (stopped : systemFrequency s = .error fault) : Overrun fault := by
  rw [systemFrequency_eq] at stopped
  rcases bind_eq_error.1 stopped with first | ⟨_, _, stopped⟩
  · exact readNumber_error first
  · rcases bind_eq_error.1 stopped with second | ⟨_, _, stopped⟩
    · exact readNumber_error second
    · rcases bind_eq_error.1 stopped with third | ⟨_, _, stopped⟩
      · exact readNumber_error third
      · exact scaled_error stopped

theorem dividerRun_eq_none_iff {label : String} :
    digitsBeforeX? [] label.toList = none ↔ ¬ DigitBeforeX label.toList :=
  digitsBeforeX?_eq_none_iff fun _ member => (List.not_mem_nil member).elim

theorem scaled_of_unclear {oscillator : String} {p m q : Option Nat}
    (unclear : p = none ∨ m = none ∨ q = none ∨ p = some 0 ∨ q = some 0) :
    scaled oscillator p m q = .ok fallbackFrequency := by
  unfold scaled
  split
  · simp at unclear
  · rfl

theorem systemFrequency_of_unclear {s : Snapshot} (goes : ¬ SystemStops s) (unclear : Unclear s) :
    systemFrequency s = .ok fallbackFrequency := by
  have short : ¬ Long (inputRun s) ∧ ¬ Long (multiplierRun s) ∧ ¬ Long (outputRun s) :=
    ⟨fun long => goes (.inl long), fun long => goes (.inr (.inl long)),
      fun long => goes (.inr (.inr (.inl long)))⟩
  rw [systemFrequency_eq, number?_of_not_long short.1, number?_of_not_long short.2.1,
    number?_of_not_long short.2.2]
  refine scaled_of_unclear (unclear.imp ?_ (.imp ?_ (.imp ?_ id)))
  · intro unread
    rw [inputRun, ← inputLabel, dividerRun_eq_none_iff.2 unread, Option.map_none]
  · intro unread
    rw [multiplierRun, ← multiplierLabel, digitsAfter?_eq_none_iff.2 unread, Option.map_none]
  · intro unread
    rw [outputRun, ← outputLabel, dividerRun_eq_none_iff.2 unread, Option.map_none]

theorem usedDivisor_ne_zero (run : Option (List Char)) : usedDivisor run ≠ 0 := by
  unfold usedDivisor
  split
  · exact Nat.succ_ne_zero _
  · decide

section Bus

variable {s : Snapshot} {bus index : Int} (known : busSetting? bus = some index)

include known

theorem busDivisor_of_noDivisor (short : ¬ Long (busRun s index)) (none : NoDivisor s index) :
    busDivisor s bus = .ok defaultBusDivisor := by
  rw [busDivisor_of_not_long known short]
  rcases none with unread | zero
  · rw [busRun, digitsAfter?_eq_none_iff.2 unread]
    rfl
  · rw [usedDivisor, zero]

theorem busDivisor_ne_zero {n : Nat} (done : busDivisor s bus = .ok n) : n ≠ 0 := by
  by_cases long : Long (busRun s index)
  · obtain ⟨fault, stopped⟩ := exists_busDivisor_error known long
    rw [stopped] at done
    cases done
  · rw [busDivisor_of_not_long known long] at done
    cases done
    exact usedDivisor_ne_zero _

theorem busDivisor_error {fault : ClockFault} (stopped : busDivisor s bus = .error fault) :
    Overrun fault := by
  simp only [busDivisor, known] at stopped
  rcases bind_eq_error.1 stopped with unread | ⟨n, _, done⟩
  · exact readNumber_error unread
  · rcases n with _ | _ | n <;> cases done

theorem busFrequency_ne_nan {x : Binary64} (done : busFrequency s bus = .ok x) : x ≠ .nan := by
  obtain ⟨system, first, done⟩ := bind_eq_ok.1 done
  obtain ⟨divisor, second, done⟩ := bind_eq_ok.1 done
  obtain ⟨double, third, done⟩ := bind_eq_ok.1 done
  cases pure_eq_ok.1 done
  obtain ⟨m, e, rfl, positive, _⟩ := Binary64.exists_finite_of_ofInt?
    (busDivisor_ne_zero known second) (ofInt?_of_toDouble third)
  exact Binary64.div_ne_nan (systemFrequency_ne_nan first) false positive e

theorem busFrequency_error {fault : ClockFault} (stopped : busFrequency s bus = .error fault) :
    Overrun fault := by
  rcases bind_eq_error.1 stopped with first | ⟨_, _, stopped⟩
  · exact systemFrequency_error first
  · rcases bind_eq_error.1 stopped with second | ⟨_, _, stopped⟩
    · exact busDivisor_error known second
    · rcases bind_eq_error.1 stopped with third | ⟨_, _, done⟩
      · exact toDouble_error third
      · cases done

end Bus

/-- An estimate is a number unless one of its numbers is too long to be read, or is used and has no
double. Labels without a number and zero dividers give 200 MHz, a bus without a divisor is divided
by 4. -/
theorem estimates_stop_iff (s : Snapshot) :
    StopsIf (SystemStops s) (systemFrequency s) ∧
    (¬ SystemStops s → Unclear s → systemFrequency s = .ok (.ofNat 200)) ∧
    ∀ e ∈ [((2 : Int), (40 : Int)), (3, 41)],
      StopsIf (SystemStops s ∨ DivisorStops s e.2) (busFrequency s e.1) ∧
      (¬ Long (busRun s e.2) → NoDivisor s e.2 → busDivisor s e.1 = .ok 4) := by
  refine ⟨?_, systemFrequency_of_unclear, ?_⟩
  · exact stopsIf_of (systemFrequency_eq_error_iff s) (fun _ => systemFrequency_ne_nan)
      fun _ => systemFrequency_error
  · intro e bus
    have known : busSetting? e.1 = some e.2 := by
      simp only [List.mem_cons, List.not_mem_nil, or_false] at bus
      rcases bus with rfl | rfl <;> rfl
    refine ⟨?_, busDivisor_of_noDivisor known⟩
    exact stopsIf_of (busFrequency_eq_error_iff s e.1 known) (fun _ => busFrequency_ne_nan known)
      fun _ => busFrequency_error known

/-! Numbers that are too long, and too large. -/

def multiplied (digits : List Char) : Snapshot :=
  OrderedMap.ofList [(9, String.ofList ("PLL Multiply by ".toList ++ digits))]

def hugeDigits : List Char := '1' :: List.replicate 309 '0'

theorem multiplierRun_multiplied {digits : List Char}
    (decimal : ∀ c ∈ digits, isDigit c = true) (nonempty : digits ≠ []) :
    multiplierRun (multiplied digits) = some digits := by
  have label : (choice (multiplied digits) multiplierSetting defaultMultiplier).toList =
      "PLL Multiply ".toList ++ ('b' :: ['y', ' '] ++ digits) := String.toList_ofList
  rw [multiplierRun, label]
  have free : 'b' ∉ "PLL Multiply ".toList := by decide
  exact (digitsAfter?_skip free _).trans (digitsAfter?_marker decimal nonempty)

theorem systemFrequency_multiplied {digits : List Char}
    (decimal : ∀ c ∈ digits, isDigit c = true) (nonempty : digits ≠ []) :
    systemFrequency (multiplied digits) = (do
      let m ← (number? (some digits)).mapError .number
      scaled defaultOscillator (some 3) m (some 2)) := by
  have input : inputRun (multiplied digits) = digitsBeforeX? [] defaultInputDivider.toList := rfl
  have output : outputRun (multiplied digits) = digitsBeforeX? [] defaultOutputDivider.toList := rfl
  have three : number? (digitsBeforeX? [] defaultInputDivider.toList) = .ok (some 3) := by decide
  have two : number? (digitsBeforeX? [] defaultOutputDivider.toList) = .ok (some 2) := by decide
  rw [systemFrequency_eq, input, output, three, two, multiplierRun_multiplied decimal nonempty]
  rfl

/-- A multiplier of 4301 digits stops the estimate where it is read, one of 310 where it is used. -/
theorem estimate_overruns :
    systemFrequency (multiplied (List.replicate 4301 '1')) =
      .error (.number (.tooManyDigits 4301)) ∧
    systemFrequency (multiplied hugeDigits) = .error .tooLarge := by
  constructor
  · have decimal : ∀ c ∈ List.replicate 4301 '1', isDigit c = true := by
      intro c member
      rw [List.eq_of_mem_replicate member]
      decide
    have length : (List.replicate 4301 '1').length = 4301 := List.length_replicate
    have long : (List.replicate 4301 '1').length > Numeral.digitLimit := by
      rw [length]
      decide
    have unread : number? (some (List.replicate 4301 '1')) = .error (.tooManyDigits 4301) := by
      rw [number?, Numeral.ofDigits, if_pos long, length]
      rfl
    rw [systemFrequency_multiplied decimal (List.ne_nil_of_length_eq_add_one length), unread]
    rfl
  · have decimal : ∀ c ∈ hugeDigits, isDigit c = true := by
      intro c member
      rcases List.mem_cons.1 member with rfl | later
      · decide
      · rw [List.eq_of_mem_replicate later]
        decide
    have read : number? (some hugeDigits) = .ok (some (ofDigits hugeDigits)) :=
      number?_of_not_long (by rintro ⟨_, ⟨⟩, long⟩; exact absurd long (by decide +kernel))
    have large : Binary64.ofInt? (ofDigits hugeDigits) = none :=
      (Binary64.ofInt?_eq_none_iff _).2 (by decide +kernel)
    have double : toDouble (ofDigits hugeDigits) = .error .tooLarge := by rw [toDouble, large]
    rw [systemFrequency_multiplied decimal (List.cons_ne_nil _ _), read]
    simp only [Except.mapError, bind, Except.bind, scaled, double]
    rfl

end ConfigWords.Clock
