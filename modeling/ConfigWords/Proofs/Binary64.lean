import ConfigWords.Number.Binary64

/-! Which whole numbers are too large for a double, and which quotients are numbers.
The largest double is `2 ^ 1024 - 2 ^ 971`. A number is rounded beyond it from the middle between
it and `2 ^ 1024` on, since the mantissa below the middle is odd and a tie goes to the even one.
A quotient is a number where the divisor is one and not zero, and a double that a positive whole
number has is not zero. -/
namespace ConfigWords.Binary64

def halfStep : Nat := Nat.pow 2 970

def overflowThreshold : Nat := 2 * hiddenBit * (2 * halfStep) - halfStep

theorem overflowThreshold_eq : overflowThreshold = Nat.pow 2 1024 - Nat.pow 2 970 := by
  decide +kernel

theorem floorLog_one {n : Nat} (positive : n ≠ 0) : floorLog n 1 = n.log2 := by
  have below : ¬ n < 1 <<< n.log2 := by
    rw [Nat.one_shiftLeft]
    exact Nat.not_lt.2 (Nat.log2_self_le positive)
  have log : Nat.log2 1 = 0 := by decide
  simp [floorLog, log, below]

theorem divideEven_eq_iff {n half top : Nat} (even : top % 2 = 0) (below : n < top * (2 * half)) :
    divideEven n (2 * half) = top ↔ top * (2 * half) ≤ n + half := by
  have positive : 0 < 2 * half := Nat.pos_of_ne_zero fun zero => by simp [zero] at below
  have split := Nat.div_add_mod' n (2 * half)
  have rest := Nat.mod_lt n positive
  have quotient : n / (2 * half) < top := (Nat.div_lt_iff_lt_mul positive).2 below
  unfold divideEven
  generalize n / (2 * half) = q at *
  generalize n % (2 * half) = r at *
  obtain rfl | further : q + 1 = top ∨ q + 2 ≤ top := by omega
  · rw [Nat.add_mul, Nat.one_mul]
    generalize q * (2 * half) = product at *
    simp only
    split
    · omega
    · split <;> omega
  · have gap := Nat.mul_le_mul_right (2 * half) further
    rw [Nat.add_mul] at gap
    generalize q * (2 * half) = product at *
    generalize top * (2 * half) = bound at *
    simp only
    split
    · omega
    · split <;> omega

/-- A whole number overflows by its size, or because its mantissa is carried into the next power
of two. -/
theorem round_eq_infinite_iff {n : Nat} (positive : n ≠ 0) :
    (∃ negative, round false n 1 = .infinite negative) ↔ 1024 ≤ n.log2 ∨
      n.log2 = 1023 ∧ divideEven n (2 * halfStep) = 2 * hiddenBit := by
  have exponent : max (floorLog n 1 - 52) (-1074) = (n.log2 : Int) - 52 := by
    rw [floorLog_one positive]
    omega
  simp only [round, if_neg positive, exponent]
  by_cases top : n.log2 = 1023
  · have unit : 1 <<< (((1023 : Nat) : Int) - 52).toNat = 2 * halfStep := by decide +kernel
    have whole : n <<< (-(((1023 : Nat) : Int) - 52)).toNat = n := Nat.shiftLeft_zero
    rw [top, unit, whole]
    generalize divideEven n (2 * halfStep) = mantissa
    by_cases carried : mantissa = 2 * hiddenBit <;> simp [carried]
  · generalize divideEven _ _ = mantissa
    by_cases carried : mantissa = 2 * hiddenBit
    · simp only [carried, if_true]
      split <;> simp <;> omega
    · simp only [carried, if_false]
      split <;> simp <;> omega

theorem ofInt?_eq_none_iff (n : Nat) : ofInt? n = none ↔ overflowThreshold ≤ n := by
  have infinite : ofInt? n = none ↔ ∃ negative, round false n 1 = .infinite negative := by
    have sign : decide ((n : Int) < 0) = false := by simp
    rw [ofInt?, sign, Int.natAbs_natCast]
    cases round false n 1 <;> simp
  by_cases zero : n = 0
  · subst zero
    exact iff_of_false (by decide) (by decide +kernel)
  rw [infinite, round_eq_infinite_iff zero]
  have mono : ∀ {a b : Nat}, a ≤ b → Nat.pow 2 a ≤ Nat.pow 2 b := Nat.pow_le_pow_right Nat.two_pos
  have low : Nat.pow 2 n.log2 ≤ n := Nat.log2_self_le zero
  have high : n < Nat.pow 2 (n.log2 + 1) := Nat.lt_log2_self
  rcases Nat.lt_trichotomy n.log2 1023 with small | top | large
  · have power := Nat.le_trans (mono (Nat.succ_le_of_lt small))
      (by decide +kernel : _ ≤ overflowThreshold)
    exact iff_of_false (by omega) (Nat.not_le.2 (Nat.lt_of_lt_of_le high power))
  · rw [top] at high
    have below : n < 2 * hiddenBit * (2 * halfStep) := Nat.lt_of_lt_of_le high (by decide +kernel)
    have carried : divideEven n (2 * halfStep) = 2 * hiddenBit ↔ overflowThreshold ≤ n := by
      rw [divideEven_eq_iff (by decide) below]
      exact Nat.sub_le_iff_le_add.symm
    simp [top, carried]
  · have above : overflowThreshold ≤ n :=
      Nat.le_trans (by decide +kernel) (Nat.le_trans (mono large) low)
    exact iff_of_true (.inl large) above

/-! Numbers divided by whole numbers. -/

theorem floorLog_le (num den : Nat) : floorLog num den ≤ num.log2 := by
  simp only [floorLog]
  split <;> omega

/-- A rounded quotient is infinite only from the largest exponent on. The mantissa of a finite one is
that of the quotient in units of the exponent, or carried into the next power of two. -/
theorem round_cases (negative : Bool) {num : Nat} (positive : num ≠ 0) (den : Nat) :
    (round negative num den = .infinite negative ∧ 971 ≤ max (floorLog num den - 52) (-1074)) ∨
      ∃ m e, round negative num den = .finite negative m e ∧
        max (floorLog num den - 52) (-1074) ≤ e ∧
        (m = hiddenBit ∨ m = divideEven
          (num <<< (-max (floorLog num den - 52) (-1074)).toNat)
          (den <<< (max (floorLog num den - 52) (-1074)).toNat)) := by
  simp only [round, if_neg positive]
  generalize max (floorLog num den - 52) (-1074) = exponent
  generalize divideEven _ _ = mantissa
  by_cases carried : mantissa = 2 * hiddenBit
  · simp only [carried, if_true]
    split
    · exact .inl ⟨rfl, by omega⟩
    · exact .inr ⟨_, _, rfl, by omega, .inl rfl⟩
  · simp only [carried, if_false]
    split
    · exact .inl ⟨rfl, by omega⟩
    · exact .inr ⟨_, _, rfl, Int.le_refl _, .inr rfl⟩

theorem round_ne_nan (negative : Bool) (num den : Nat) : round negative num den ≠ .nan := by
  by_cases zero : num = 0
  · rw [round, if_pos zero]
    exact nofun
  · rcases round_cases negative zero den with ⟨infinite, _⟩ | ⟨_, _, finite, _⟩
    · rw [infinite]
      exact nofun
    · rw [finite]
      exact nofun

theorem exists_finite_round {num : Nat} (small : num.log2 ≤ 1000) (negative : Bool) (den : Nat) :
    ∃ m e, round negative num den = .finite negative m e := by
  by_cases zero : num = 0
  · rw [round, if_pos zero]
    exact ⟨_, _, rfl⟩
  · have bound := floorLog_le num den
    rcases round_cases negative zero den with ⟨_, large⟩ | ⟨m, e, finite, _⟩
    · omega
    · exact ⟨m, e, finite⟩

theorem divideEven_pos {num den : Nat} (positive : 0 < den) (whole : den ≤ num) :
    0 < divideEven num den := by
  have quotient : 0 < num / den := Nat.div_pos whole positive
  simp only [divideEven]
  split
  · exact quotient
  · split
    · exact Nat.succ_pos _
    · exact Nat.add_pos_left quotient _

/-- A positive whole number is not rounded to zero, and its bits are kept down to the unit or down
to the 53rd. -/
theorem exists_finite_of_ofInt? {n : Nat} (positive : n ≠ 0) {x : Binary64}
    (found : ofInt? n = some x) : ∃ m e, x = .finite false m e ∧ m ≠ 0 ∧ -52 ≤ e := by
  have sign : decide ((n : Int) < 0) = false := by simp
  have exponent : max (floorLog n 1 - 52) (-1074) = (n.log2 : Int) - 52 := by
    rw [floorLog_one positive]
    omega
  have mantissa : 0 < divideEven (n <<< (-((n.log2 : Int) - 52)).toNat)
      (1 <<< ((n.log2 : Int) - 52).toNat) := by
    have least : Nat.pow 2 n.log2 ≤ n := Nat.log2_self_le positive
    refine divideEven_pos (by rw [Nat.one_shiftLeft]; exact Nat.two_pow_pos _) ?_
    rw [Nat.one_shiftLeft]
    rcases Nat.le_total n.log2 52 with small | large
    · have unit : ((n.log2 : Int) - 52).toNat = 0 := by omega
      rw [unit]
      exact Nat.le_trans (Nat.pos_of_ne_zero positive) (Nat.le_shiftLeft)
    · have whole : (-((n.log2 : Int) - 52)).toNat = 0 := by omega
      rw [whole, Nat.shiftLeft_zero]
      exact Nat.le_trans (Nat.pow_le_pow_right Nat.two_pos (by omega)) least
  rw [ofInt?, sign, Int.natAbs_natCast] at found
  rcases round_cases false positive 1 with ⟨infinite, _⟩ | ⟨m, e, finite, unit, value⟩
  · rw [infinite] at found
    cases found
  · rw [finite] at found
    cases found
    refine ⟨m, e, rfl, ?_, by omega⟩
    rw [exponent] at value
    rcases value with rfl | rfl
    · decide
    · exact Nat.pos_iff_ne_zero.1 mantissa

theorem finite_of_ofInt? {n : Int} {x : Binary64} (found : ofInt? n = some x) :
    ∃ negative m e, x = .finite negative m e := by
  unfold ofInt? at found
  split at found
  · cases found
  · rename_i finite
    cases Option.some.inj found
    cases rounded : round (decide (n < 0)) n.natAbs 1 with
    | finite negative m e => exact ⟨negative, m, e, rfl⟩
    | infinite negative => exact absurd rounded (finite negative)
    | nan => exact absurd rounded (round_ne_nan _ _ _)

theorem div_ne_nan {x : Binary64} (number : x ≠ .nan) (negative : Bool) {m : Nat} (divisor : m ≠ 0)
    (e : Int) : x.div (.finite negative m e) ≠ .nan := by
  cases x with
  | finite own m₁ e₁ =>
    simp only [div, if_neg divisor]
    exact round_ne_nan _ _ _
  | infinite own => exact nofun
  | nan => exact absurd rfl number

theorem exists_finite_div {m₁ m₂ : Nat} {e₁ e₂ : Int} (small : (m₁ <<< e₁.toNat).log2 < 100)
    (divisor : m₂ ≠ 0) (coarse : -52 ≤ e₂) (own other : Bool) :
    ∃ m e, (Binary64.finite own m₁ e₁).div (.finite other m₂ e₂) =
      .finite (own != other) m e := by
  have bound : (m₁ <<< e₁.toNat * 1 <<< (-e₂).toNat).log2 ≤ 1000 := by
    by_cases zero : m₁ <<< e₁.toNat * 1 <<< (-e₂).toNat = 0
    · rw [zero]
      decide
    · have high : m₁ <<< e₁.toNat < Nat.pow 2 100 :=
        Nat.lt_of_lt_of_le Nat.lt_log2_self (Nat.pow_le_pow_right Nat.two_pos small)
      have scale : 1 <<< (-e₂).toNat ≤ Nat.pow 2 52 := by
        rw [Nat.one_shiftLeft]
        exact Nat.pow_le_pow_right Nat.two_pos (by omega)
      have product := Nat.mul_lt_mul_of_lt_of_le high scale (Nat.two_pow_pos _)
      have power : Nat.pow 2 100 * Nat.pow 2 52 ≤ Nat.pow 2 200 := by decide +kernel
      have few := (Nat.log2_lt zero).2 (Nat.lt_of_lt_of_le product power)
      exact Nat.le_trans (Nat.le_of_lt few) (by decide)
  simp only [div, if_neg divisor, fraction]
  exact exists_finite_round bound _ _

end ConfigWords.Binary64
