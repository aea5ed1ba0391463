import ConfigWords.Text.Digit
import Mathlib.Data.List.Infix
import Mathlib.Data.List.TakeWhile

/-! Whole runs of digits in a text, and the first of those that stand in a certain place. -/
namespace ConfigWords.Text

theorem begins_of_cons {c : Char} (stop : isDigit c = false) (rest : List Char) :
    ∀ d, [d] <+: c :: rest → isDigit d = false := by
  rintro d ⟨_, same⟩
  rw [(List.cons_eq_cons.1 same).1]
  exact stop

theorem ends_of_concat {c : Char} (stop : isDigit c = false) (init : List Char) :
    ∀ d, [d] <:+ init ++ [c] → isDigit d = false := by
  rintro d ⟨front, same⟩
  rw [(List.cons_eq_cons.1 (List.append_inj_right' same rfl)).1]
  exact stop

/-- Digits of a text with no digit next to them. -/
structure WholeRun (text before run after : List Char) : Prop where
  split : text = before ++ run ++ after
  nonempty : run ≠ []
  decimal : ∀ c ∈ run, isDigit c = true
  starts : ∀ c, [c] <:+ before → isDigit c = false
  ends : ∀ c, [c] <+: after → isDigit c = false

/-- Where a run has to stand, by what is before it and what is behind it. -/
abbrev Place := List Char → List Char → Prop

def BeforeX : Place := fun _ after => ['x'] <+: after

def Behind (marker : List Char) : Place := fun before _ => marker <:+ before

/-- The first of the whole runs that stand in the right place. -/
def FirstRun (place : Place) (text run : List Char) : Prop :=
  ∃ before after, WholeRun text before run after ∧ place before after ∧
    ∀ before' run' after', WholeRun text before' run' after' → place before' after' →
      before.length ≤ before'.length

namespace WholeRun

variable {text before run after : List Char}

theorem run_eq (whole : WholeRun text before run after) :
    run = (text.drop before.length).takeWhile isDigit := by
  have stops : after.takeWhile isDigit = [] := by
    cases after with
    | nil => rfl
    | cons c after => simp [whole.ends c ⟨after, rfl⟩]
  rw [whole.split, List.append_assoc, List.drop_left, List.takeWhile_append_of_pos whole.decimal,
    stops, List.append_nil]

theorem of_takeWhile {before text : List Char} (nonempty : text.takeWhile isDigit ≠ [])
    (starts : ∀ c, [c] <:+ before → isDigit c = false) :
    WholeRun (before ++ text) before (text.takeWhile isDigit) (text.dropWhile isDigit) where
  split := by rw [List.append_assoc, List.takeWhile_append_dropWhile]
  nonempty := nonempty
  decimal := fun c member => List.mem_takeWhile_imp member
  starts := starts
  ends := by
    rintro c ⟨tail, same⟩
    have stop := List.head?_dropWhile_not isDigit text
    rwa [← same] at stop

theorem cons (whole : WholeRun text before run after) (nonempty : before ≠ []) (c : Char) :
    WholeRun (c :: text) (c :: before) run after where
  split := congrArg (c :: ·) whole.split
  nonempty := whole.nonempty
  decimal := whole.decimal
  starts := by
    intro d ends
    rcases List.suffix_cons_iff.1 ends with same | later
    · exact absurd (List.cons_eq_cons.1 same).2.symm nonempty
    · exact whole.starts d later
  ends := whole.ends

theorem behind_cons {marker : List Char} (nonempty : marker ≠ []) {c : Char} {rest : List Char}
    (whole : WholeRun (c :: rest) before run after) (place : Behind marker before after) :
    before = marker ∨
      ∃ before', before = c :: before' ∧ WholeRun rest before' run after ∧
        Behind marker before' after := by
  obtain ⟨d, before, rfl⟩ := List.exists_cons_of_ne_nil fun empty => nonempty <|
    List.suffix_nil.1 (empty ▸ place)
  have split := whole.split
  rw [List.append_assoc, List.cons_append] at split
  obtain ⟨rfl, behind⟩ := List.cons_eq_cons.1 split
  rcases List.suffix_cons_iff.1 place with same | later
  · exact .inl same.symm
  · refine .inr ⟨before, rfl, ⟨?_, whole.nonempty, whole.decimal, ?_, whole.ends⟩, later⟩
    · rw [behind, List.append_assoc]
    · intro e ends
      exact whole.starts e (ends.trans (List.suffix_cons c before))

end WholeRun

theorem FirstRun.unique {place : Place} {text run run' : List Char}
    (first : FirstRun place text run) (other : FirstRun place text run') : run = run' := by
  obtain ⟨before, after, whole, here, least⟩ := first
  obtain ⟨before', after', whole', here', least'⟩ := other
  have level : before.length = before'.length :=
    Nat.le_antisymm (least _ _ _ whole' here') (least' _ _ _ whole here)
  rw [whole.run_eq, whole'.run_eq, level]

section Front

variable {front rest : List Char} (decimal : ∀ c ∈ front, isDigit c = true) {c : Char}
  (stop : isDigit c = false)

include stop

theorem WholeRun.skip {before run after : List Char} (whole : WholeRun rest before run after) :
    WholeRun (front ++ c :: rest) (front ++ c :: before) run after where
  split := by rw [whole.split]; simp
  nonempty := whole.nonempty
  decimal := whole.decimal
  starts := by
    intro d ends
    have tail : [d] <:+ c :: before :=
      List.suffix_of_suffix_length_le ends (List.suffix_append _ _) (by simp)
    rcases List.suffix_cons_iff.1 tail with same | later
    · cases same
      exact stop
    · exact whole.starts d later
  ends := whole.ends

include decimal

theorem WholeRun.beyond (other : front ≠ [] → c ≠ 'x') {before run after : List Char}
    (whole : WholeRun (front ++ c :: rest) before run after) (place : BeforeX before after) :
    ∃ before', before = front ++ c :: before' ∧ WholeRun rest before' run after := by
  have split := whole.split
  rw [List.append_assoc, List.append_eq_append_iff] at split
  rcases split with ⟨later, rfl, tail⟩ | ⟨more, rfl, tail⟩
  · cases later with
    | nil =>
      -- The run cannot begin with the character that is no digit.
      obtain ⟨d, run', rfl⟩ := List.exists_cons_of_ne_nil whole.nonempty
      obtain ⟨rfl, _⟩ := List.cons_eq_cons.1 tail
      rw [whole.decimal _ List.mem_cons_self] at stop
      cases stop
    | cons e later =>
      rw [List.cons_append] at tail
      obtain ⟨rfl, behind⟩ := List.cons_eq_cons.1 tail
      refine ⟨later, rfl, ?_, whole.nonempty, whole.decimal, ?_, whole.ends⟩
      · rw [behind, List.append_assoc]
      · intro d ends
        exact whole.starts d (ends.trans ⟨front ++ [c], by simp⟩)
  · exfalso
    -- A run that begins inside the front is the front, and no x follows it.
    have empty : before = [] := by
      rcases List.eq_nil_or_concat' before with none | ⟨init, d, rfl⟩
      · exact none
      · have digit := decimal d (by simp)
        rw [whole.starts d (List.suffix_append _ _)] at digit
        cases digit
    subst empty
    rw [List.nil_append] at whole decimal other
    have same : run = more := by
      rw [whole.run_eq, List.length_nil, List.drop_zero, List.takeWhile_append_of_pos decimal]
      simp [stop]
    subst same
    have behind : after = c :: rest := List.append_cancel_left tail
    obtain ⟨_, follows⟩ := place
    rw [behind] at follows
    exact other whole.nonempty (List.cons_eq_cons.1 follows).1.symm

theorem FirstRun.skip (other : front ≠ [] → c ≠ 'x') {run : List Char}
    (first : FirstRun BeforeX rest run) : FirstRun BeforeX (front ++ c :: rest) run := by
  obtain ⟨before, after, whole, place, least⟩ := first
  refine ⟨front ++ c :: before, after, whole.skip stop, place, ?_⟩
  intro before' run' after' whole' place'
  obtain ⟨inner, rfl, found⟩ := whole'.beyond decimal stop other place'
  have least := least inner run' after' found place'
  simp only [List.length_append, List.length_cons]
  omega

end Front

/-- A text is gone through run by run. -/
theorem runs_induction {motive : List Char → Prop}
    (last : ∀ run, (∀ c ∈ run, isDigit c = true) → motive run)
    (next : ∀ run c rest, (∀ c ∈ run, isDigit c = true) → isDigit c = false → motive rest →
      motive (run ++ c :: rest)) (text : List Char) : motive text := by
  cases tail : text.dropWhile isDigit with
  | nil =>
    exact last text fun c member => List.dropWhile_eq_nil_iff.1 tail c member
  | cons c rest =>
    have split := List.takeWhile_append_dropWhile (p := isDigit) (l := text)
    have stop := List.head?_dropWhile_not isDigit text
    rw [tail] at split stop
    have shorter : rest.length < text.length := by
      rw [← split, List.length_append, List.length_cons]
      omega
    rw [← split]
    exact next _ c rest (fun c member => List.mem_takeWhile_imp member) stop
      (runs_induction last next rest)
termination_by text.length

end ConfigWords.Text
