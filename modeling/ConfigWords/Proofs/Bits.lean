import ConfigWords.Field
import Mathlib.Data.Int.Bitwise

/-! Single bits of unbounded words.
A negative word has its bits in two's complement, so every word has infinitely many. A field is
cut out and replaced by arithmetic; here that arithmetic is read bit by bit. -/
namespace ConfigWords.Word

theorem span_cast_pos (n : Nat) : (0 : Int) < span n := Int.natCast_pos.2 (span_pos n)

theorem span_cast_add (a b : Nat) : (span (a + b) : Int) = span a * span b := by
  rw [span_add, Int.natCast_mul]

theorem natTestBit_eq (m b : Nat) : m.testBit b = decide (m / span b % 2 = 1) := by
  rw [Nat.testBit_eq_decide_div_mod_eq, span_eq, Nat.pow_eq]

theorem testBit_eq (n : Int) (b : Nat) : n.testBit b = decide (n / span b % 2 = 1) := by
  cases n with
  | ofNat m =>
    have parity : ((m / span b % 2 : Nat) : Int) = (m : Int) / span b % 2 := by norm_cast
    rw [Int.testBit, natTestBit_eq, Int.ofNat_eq_natCast, ← parity]
    exact decide_eq_decide.2 (by omega)
  | negSucc m =>
    have above : Int.negSucc m / span b = Int.negSucc (m / span b) := by
      rw [Int.negSucc_ediv m (span_cast_pos b)]
      rfl
    rw [Int.testBit, natTestBit_eq, above, ← decide_not]
    exact decide_eq_decide.2 (by omega)

theorem testBit_div (n : Int) (start b : Nat) :
    (n / span start).testBit b = n.testBit (start + b) := by
  rw [testBit_eq, testBit_eq, span_cast_add,
    Int.ediv_ediv_of_nonneg (Int.le_of_lt (span_cast_pos start))]

theorem testBit_add_mul_span (n k : Int) {b high : Nat} (low : b < high) :
    (n + k * span high).testBit b = n.testBit b := by
  obtain ⟨d, rfl⟩ : ∃ d, high = b + (1 + d) := ⟨high - (b + 1), by omega⟩
  have two : k * span (b + (1 + d)) = k * span d * 2 * span b := by
    have one : (span 1 : Int) = 2 := rfl
    rw [span_cast_add, span_cast_add, one]
    ac_rfl
  rw [testBit_eq, testBit_eq, two,
    Int.add_mul_ediv_right _ _ (Int.ne_of_gt (span_cast_pos b)), Int.add_mul_emod_self_right]

theorem testBit_mod_of_lt (n : Int) {b width : Nat} (low : b < width) :
    (n % span width).testBit b = n.testBit b := by
  have split : n % span width = n + -(n / span width) * span width := by
    rw [Int.emod_def, Int.neg_mul, Int.mul_comm]
    rfl
  rw [split, testBit_add_mul_span n _ low]

theorem testBit_cut (n : Int) {b : Nat} (low : b < bits) :
    Int.testBit (cut n) b = n.testBit b := by
  have nonneg := Int.emod_nonneg n (Int.ne_of_gt (span_cast_pos bits))
  rw [cut, Int.toNat_of_nonneg nonneg, testBit_mod_of_lt n low]

theorem testBit_of_lt_span {value width b : Nat} (fits : value < span width) (above : width ≤ b) :
    value.testBit b = false := by
  rw [span_eq, Nat.pow_eq] at fits
  exact Nat.testBit_lt_two_pow (Nat.lt_of_lt_of_le fits (Nat.pow_le_pow_right (by decide) above))

theorem testBit_mul_span (value start b : Nat) :
    (value * span start).testBit b = (decide (start ≤ b) && value.testBit (b - start)) := by
  rw [span_eq, Nat.pow_eq, Nat.testBit_mul_two_pow]

theorem eq_of_testBit_eq {m n : Int} (same : ∀ b, m.testBit b = n.testBit b) : m = n := by
  -- A natural number runs out of ones and a negative one runs out of zeros.
  have mixed : ∀ i j : Nat, ¬ ∀ b, i.testBit b = !j.testBit b := by
    intro i j opposite
    have left : i < 2 ^ (i + j) := Nat.lt_of_le_of_lt (Nat.le_add_right i j) Nat.lt_two_pow_self
    have right : j < 2 ^ (i + j) := Nat.lt_of_le_of_lt (Nat.le_add_left j i) Nat.lt_two_pow_self
    have here := opposite (i + j)
    rw [Nat.testBit_lt_two_pow left, Nat.testBit_lt_two_pow right] at here
    exact Bool.false_ne_true here
  cases m with
  | ofNat i =>
    cases n with
    | ofNat j => exact congrArg Int.ofNat (Nat.eq_of_testBit_eq same)
    | negSucc j => exact absurd same (mixed i j)
  | negSucc i =>
    cases n with
    | ofNat j => exact absurd (fun b => (same b).symm) (mixed j i)
    | negSucc j =>
      exact congrArg Int.negSucc (Nat.eq_of_testBit_eq fun b => Bool.not_inj (same b))

end ConfigWords.Word

namespace ConfigWords.Field

open Word

theorem extract_cast (f : Field) (word : Int) :
    (f.extract word : Int) = word / Word.span f.start % Word.span f.width :=
  Int.toNat_of_nonneg (Int.emod_nonneg _ (Int.ne_of_gt (span_cast_pos f.width)))

theorem testBit_extract (f : Field) (word : Int) (b : Nat) :
    (f.extract word).testBit b = (decide (b < f.width) && word.testBit (f.start + b)) := by
  by_cases inside : b < f.width
  · have here : Int.testBit (f.extract word) b = word.testBit (f.start + b) := by
      rw [extract_cast, testBit_mod_of_lt _ inside, testBit_div]
    rw [decide_eq_true inside, Bool.true_and]
    exact here
  · rw [decide_eq_false inside, Bool.false_and]
    exact testBit_of_lt_span (f.extract_lt word) (Nat.le_of_not_lt inside)

theorem extract_eq_of_testBit {f : Field} {word : Int} {value : Nat}
    (fits : value < Word.span f.width)
    (same : ∀ b < f.width, word.testBit (f.start + b) = value.testBit b) :
    f.extract word = value := by
  apply Nat.eq_of_testBit_eq
  intro b
  rw [testBit_extract]
  by_cases inside : b < f.width
  · rw [decide_eq_true inside, Bool.true_and, same b inside]
  · rw [decide_eq_false inside, Bool.false_and]
    exact (testBit_of_lt_span fits (Nat.le_of_not_lt inside)).symm

theorem extract_congr {f : Field} {word other : Int}
    (same : ∀ b < f.width, word.testBit (f.start + b) = other.testBit (f.start + b)) :
    f.extract word = f.extract other := by
  refine extract_eq_of_testBit (f.extract_lt other) fun b inside => ?_
  rw [same b inside, testBit_extract, decide_eq_true inside, Bool.true_and]

theorem extract_cut (f : Field) (word : Int) : f.extract (cut word) = f.extract word := by
  refine extract_congr fun b inside => testBit_cut word ?_
  have reach := f.start_add_width_le
  omega

theorem write_div_start (f : Field) (word : Int) (value : Nat) :
    f.write word value / Word.span f.start =
      value + word / Word.span f.start / Word.span f.width * Word.span f.width := by
  have parts := Int.emod_add_ediv_mul (word / Word.span f.start) (Word.span f.width)
  rw [write, Int.add_mul_ediv_right _ _ (Int.ne_of_gt (span_cast_pos f.start)), extract_cast]
  omega

/-- A write replaces the field's own bits and no others. -/
theorem testBit_write (f : Field) (word : Int) {value : Nat} (fits : value < Word.span f.width)
    (b : Nat) :
    (f.write word value).testBit b =
      if f.start ≤ b ∧ b < f.stop then value.testBit (b - f.start) else word.testBit b := by
  -- Below the field nothing is added. From its start on, the quotient is the value with what stands
  -- above the field.
  by_cases below : b < f.start
  · have outside : ¬ (f.start ≤ b ∧ b < f.stop) := by omega
    rw [if_neg outside, write, testBit_add_mul_span _ _ below]
  · obtain ⟨d, rfl⟩ : ∃ d, b = f.start + d := ⟨b - f.start, by omega⟩
    rw [← testBit_div, write_div_start, Nat.add_sub_cancel_left]
    by_cases inside : d < f.width
    · rw [testBit_add_mul_span _ _ inside, if_pos (by unfold stop; omega)]
      rfl
    · have outside : ¬ (f.start ≤ f.start + d ∧ f.start + d < f.stop) := by unfold stop; omega
      obtain ⟨k, rfl⟩ : ∃ k, d = f.width + k := ⟨d - f.width, by omega⟩
      have gone : (value : Int) / Word.span f.width = 0 :=
        Int.ediv_eq_zero_of_lt (Int.natCast_nonneg value) (Int.ofNat_lt.2 fits)
      rw [if_neg outside, ← testBit_div, ← testBit_div, ← testBit_div,
        Int.add_mul_ediv_right _ _ (Int.ne_of_gt (span_cast_pos f.width)), gone, Int.zero_add]

theorem testBit_mask (f : Field) (b : Nat) :
    f.mask.testBit b = decide (f.start ≤ b ∧ b < f.stop) := by
  have ones : (Word.span f.width - 1).testBit (b - f.start) = decide (b - f.start < f.width) := by
    rw [span_eq, Nat.pow_eq, Nat.testBit_two_pow_sub_one]
  rw [mask, testBit_mul_span, ones, ← Bool.decide_and]
  exact decide_eq_decide.2 (by unfold stop; omega)

/-- A write clears the field's mask and puts the value in its place. -/
theorem write_eq_lor (f : Field) (word : Int) {value : Nat} (fits : value < Word.span f.width) :
    f.write word value =
      Int.lor (Int.land word (Int.lnot f.mask)) (value * Word.span f.start : Nat) := by
  apply eq_of_testBit_eq
  intro b
  have placed : Int.testBit (value * Word.span f.start : Nat) b =
      (decide (f.start ≤ b) && value.testBit (b - f.start)) := testBit_mul_span value f.start b
  have masked : Int.testBit f.mask b = decide (f.start ≤ b ∧ b < f.stop) := testBit_mask f b
  rw [testBit_write f word fits, Int.testBit_lor, Int.testBit_land, Int.testBit_lnot, placed,
    masked]
  by_cases inside : f.start ≤ b ∧ b < f.stop
  · simp [inside]
  · have empty : (decide (f.start ≤ b) && value.testBit (b - f.start)) = false := by
      by_cases above : f.start ≤ b
      · rw [testBit_of_lt_span fits (by unfold stop at inside; omega), Bool.and_false]
      · rw [decide_eq_false above, Bool.false_and]
    rw [if_neg inside, empty, decide_eq_false inside, Bool.not_false, Bool.and_true, Bool.or_false]

theorem extract_write (f : Field) (word : Int) {value : Nat} (fits : value < Word.span f.width) :
    f.extract (f.write word value) = value := by
  have small := Int.emod_eq_of_lt (Int.natCast_nonneg value) (Int.ofNat_lt.2 fits)
  rw [extract, write_div_start, Int.add_mul_emod_self_right, small, Int.toNat_natCast]

end ConfigWords.Field
