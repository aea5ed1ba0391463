import ConfigWords.Clock
import Mathlib.Data.List.Infix
import Mathlib.Data.List.TakeWhile

/-! Where a label has no number.
A number stands in front of an `x`, or behind a marker. The search for it fails exactly where no
digit stands there. -/
namespace ConfigWords.Clock

open Text

def DigitBeforeX (text : List Char) : Prop := ∃ c, isDigit c = true ∧ [c, 'x'] <:+: text

def DigitAfter (marker text : List Char) : Prop := ∃ c, isDigit c = true ∧ marker ++ [c] <:+: text

theorem digitBeforeX_cons {c : Char} {rest : List Char} :
    DigitBeforeX (c :: rest) ↔ (isDigit c = true ∧ ['x'] <+: rest) ∨ DigitBeforeX rest := by
  simp only [DigitBeforeX, List.infix_cons_iff, List.cons_prefix_cons]
  constructor
  · rintro ⟨d, digit, ⟨rfl, follows⟩ | later⟩
    · exact .inl ⟨digit, follows⟩
    · exact .inr ⟨d, digit, later⟩
  · rintro (⟨digit, follows⟩ | ⟨d, digit, later⟩)
    · exact ⟨c, digit, .inl ⟨rfl, follows⟩⟩
    · exact ⟨d, digit, .inr later⟩

theorem digitBeforeX_run {run : List Char} (digits : ∀ c ∈ run, isDigit c = true) {c : Char}
    (stop : isDigit c = false) (other : run ≠ [] → c ≠ 'x') (rest : List Char) :
    DigitBeforeX (run ++ c :: rest) ↔ DigitBeforeX rest := by
  induction run with
  | nil => simp [digitBeforeX_cons, stop]
  | cons d run ih =>
    obtain ⟨_, later⟩ := List.forall_mem_cons.1 digits
    have different : c ≠ 'x' := other (List.cons_ne_nil d run)
    have apart : ¬ ['x'] <+: run ++ c :: rest := by
      cases run with
      | nil => simpa using different.symm
      | cons e run =>
        have digit := later e List.mem_cons_self
        rw [List.cons_append, List.cons_prefix_cons]
        rintro ⟨rfl, _⟩
        exact absurd digit (by decide)
    rw [List.cons_append, digitBeforeX_cons, ih later fun _ => different]
    simp [apart]

theorem digitsBeforeX?_eq_none_iff {run cs : List Char} (digits : ∀ c ∈ run, isDigit c = true) :
    digitsBeforeX? run cs = none ↔ ¬ DigitBeforeX (run.reverse ++ cs) := by
  have reversed (run : List Char) (digits : ∀ c ∈ run, isDigit c = true) :
      ∀ c ∈ run.reverse, isDigit c = true := fun c member => digits c (List.mem_reverse.1 member)
  -- A digit prolongs the run. Any other character ends it, and only an x makes it a hit.
  induction cs generalizing run with
  | nil =>
    refine iff_of_true rfl ?_
    rintro ⟨c, _, found⟩
    have member : 'x' ∈ run.reverse ++ [] := found.subset (by simp)
    exact absurd (reversed run digits 'x' (by simpa using member)) (by decide)
  | cons c rest ih =>
    unfold digitsBeforeX?
    split
    · rename_i digit
      have joined : (c :: run).reverse ++ rest = run.reverse ++ c :: rest := by simp
      exact joined ▸ ih (List.forall_mem_cons.2 ⟨digit, digits⟩)
    · rename_i stop
      have ends : isDigit c = false := by simpa using stop
      split
      · rename_i found
        obtain ⟨rfl, some_digit⟩ := found
        obtain ⟨d, more, rfl⟩ := List.exists_cons_of_ne_nil some_digit
        refine iff_of_false nofun (not_not_intro ⟨d, digits d List.mem_cons_self, ?_⟩)
        exact ⟨more.reverse, rest, by simp⟩
      · rename_i missed
        have other : run.reverse ≠ [] → c ≠ 'x' := fun nonempty same =>
          missed ⟨same, fun empty => nonempty (by rw [empty]; rfl)⟩
        rw [digitBeforeX_run (reversed run digits) ends other]
        exact ih fun _ member => (List.not_mem_nil member).elim

theorem exists_digit_prefix_iff {marker text : List Char} :
    (∃ c, isDigit c = true ∧ marker ++ [c] <+: text) ↔
      text.take marker.length = marker ∧
        (text.drop marker.length).takeWhile isDigit ≠ [] := by
  constructor
  · rintro ⟨c, digit, rest, rfl⟩
    simp [digit]
  · rintro ⟨head, digits⟩
    cases tail : text.drop marker.length with
    | nil => simp [tail] at digits
    | cons c rest =>
      have digit : isDigit c = true := by
        by_contra other
        simp [tail, other] at digits
      refine ⟨c, digit, rest, ?_⟩
      rw [List.append_assoc, List.singleton_append, ← tail]
      exact (congrArg (· ++ _) head).symm.trans (List.take_append_drop _ text)

theorem digitsAfter?_eq_none_iff {marker cs : List Char} :
    digitsAfter? marker cs = none ↔ ¬ DigitAfter marker cs := by
  induction cs with
  | nil =>
    refine iff_of_true rfl ?_
    rintro ⟨c, _, found⟩
    simp at found
  | cons c rest ih =>
    have step : DigitAfter marker (c :: rest) ↔
        (∃ d, isDigit d = true ∧ marker ++ [d] <+: c :: rest) ∨ DigitAfter marker rest := by
      simp only [DigitAfter, List.infix_cons_iff, and_or_left, exists_or]
    rw [step, exists_digit_prefix_iff, digitsAfter?]
    split
    · rename_i found
      exact iff_of_false nofun (not_not_intro (.inl found))
    · rename_i missed
      rw [ih, or_iff_right missed]

theorem digitsAfter?_skip {m : Char} {marker skipped : List Char} (free : m ∉ skipped)
    (text : List Char) :
    digitsAfter? (m :: marker) (skipped ++ text) = digitsAfter? (m :: marker) text := by
  induction skipped with
  | nil => rfl
  | cons c skipped ih =>
    obtain ⟨first, later⟩ := List.ne_and_not_mem_of_not_mem_cons free
    rw [List.cons_append, digitsAfter?, if_neg, ih later]
    rintro ⟨same, _⟩
    exact first (List.cons_eq_cons.1 same).1.symm

theorem digitsAfter?_marker {m : Char} {marker digits : List Char}
    (decimal : ∀ c ∈ digits, isDigit c = true) (nonempty : digits ≠ []) :
    digitsAfter? (m :: marker) (m :: marker ++ digits) = some digits := by
  have run : digits.takeWhile isDigit = digits := List.takeWhile_eq_self_iff.2 decimal
  rw [List.cons_append, digitsAfter?, ← List.cons_append, List.take_left, List.drop_left, run]
  exact if_pos ⟨rfl, nonempty⟩

end ConfigWords.Clock
