import ConfigWords.Proofs.Clock
import ConfigWords.Proofs.LabelSearch
import ConfigWords.Proofs.Text.Pattern
import ConfigWords.Proofs.Text.Runs

/-! Which number of a label is read.
The digits that a pattern captures are a whole run: no digit stands next to them. Of the runs in the
right place, right before an x or right behind a marker, it is the first one. -/
namespace ConfigWords.Clock

open Text

def dividerPattern : Pattern := .digits :: Pattern.fixed "x"

def multiplierPattern : Pattern := Pattern.fixed "by " ++ [.digits]

def busPattern : Pattern := Pattern.fixed "/" ++ [.digits]

section Found

variable {text before run after : List Char}

theorem digitBeforeX_of_run (whole : WholeRun text before run after) (place : BeforeX before after) :
    DigitBeforeX text := by
  obtain ⟨tail, rfl⟩ := place
  obtain ⟨front, d, rfl⟩ := (List.eq_nil_or_concat' run).resolve_left whole.nonempty
  refine ⟨d, whole.decimal d (by simp), before ++ front, tail, ?_⟩
  rw [whole.split]
  simp

theorem digitAfter_of_run {marker : List Char} (whole : WholeRun text before run after)
    (place : Behind marker before after) : DigitAfter marker text := by
  obtain ⟨front, rfl⟩ := place
  obtain ⟨d, tail, rfl⟩ := List.exists_cons_of_ne_nil whole.nonempty
  refine ⟨d, whole.decimal d List.mem_cons_self, front, tail ++ after, ?_⟩
  rw [whole.split]
  simp

end Found

section Scan

variable {run : List Char} (decimal : ∀ c ∈ run, isDigit c = true)

include decimal

theorem digitsBeforeX?_run (seen rest : List Char) :
    digitsBeforeX? seen (run ++ rest) = digitsBeforeX? (run.reverse ++ seen) rest := by
  induction run generalizing seen with
  | nil => rfl
  | cons d run ih =>
    obtain ⟨digit, later⟩ := List.forall_mem_cons.1 decimal
    rw [List.cons_append, digitsBeforeX?, if_pos digit, ih later]
    simp

theorem digitsBeforeX?_last : digitsBeforeX? [] run = none := by
  have scanned := digitsBeforeX?_run decimal [] []
  rw [List.append_nil] at scanned
  rw [scanned]
  rfl

theorem digitsBeforeX?_next {c : Char} (stop : isDigit c = false) (rest : List Char) :
    digitsBeforeX? [] (run ++ c :: rest) =
      if c = 'x' ∧ run ≠ [] then some run else digitsBeforeX? [] rest := by
  rw [digitsBeforeX?_run decimal, digitsBeforeX?, if_neg (by simp [stop])]
  simp

theorem matchFront_dividerPattern (nonempty : run ≠ []) {text : List Char}
    (ends : ∀ c, [c] <+: text → isDigit c = false) :
    dividerPattern.matchFront (run ++ text) =
      ((Pattern.fixed "x").matchFront text).map (run ++ ·) := by
  apply Pattern.matchDigits_run decimal nonempty ends
  intro c tail digit
  have other : c ≠ 'x' := by
    rintro rfl
    exact absurd digit (by decide)
  exact if_neg other

theorem search_dividerPattern_run {text : List Char}
    (ends : ∀ c, [c] <+: text → isDigit c = false) (other : run ≠ [] → ¬ ['x'] <+: text) :
    dividerPattern.search (run ++ text) = dividerPattern.search text := by
  induction run with
  | nil => rfl
  | cons d run ih =>
    have missed : (Pattern.fixed "x").matchFront text = none := by
      cases text with
      | nil => rfl
      | cons c text =>
        refine if_neg fun same => other (List.cons_ne_nil d run) ?_
        exact ⟨text, same ▸ rfl⟩
    have failed := matchFront_dividerPattern decimal (List.cons_ne_nil d run) ends
    rw [missed, Option.map_none, List.cons_append] at failed
    rw [List.cons_append, Pattern.search, failed, Option.none_or]
    exact ih (List.forall_mem_cons.1 decimal).2 fun _ => other (List.cons_ne_nil d run)

end Scan

theorem search_dividerPattern (text : List Char) :
    dividerPattern.search text = digitsBeforeX? [] text := by
  induction text using runs_induction with
  | last run decimal =>
    have found : dividerPattern.search (run ++ []) = dividerPattern.search [] :=
      search_dividerPattern_run decimal (by simp) (by simp)
    rw [List.append_nil] at found
    rw [found, digitsBeforeX?_last decimal]
    rfl
  | next run c rest decimal stop ih =>
    have ends := begins_of_cons stop rest
    have idle : dividerPattern.search (c :: rest) = dividerPattern.search rest := by
      have failed : dividerPattern.matchFront (c :: rest) = none := if_neg (by simp [stop])
      rw [Pattern.search, failed, Option.none_or]
    rw [digitsBeforeX?_next decimal stop]
    split
    · rename_i hit
      obtain ⟨rfl, nonempty⟩ := hit
      have found := matchFront_dividerPattern decimal nonempty ends
      have captured : (Pattern.fixed "x").matchFront ('x' :: rest) = some [] := rfl
      rw [captured, Option.map_some, List.append_nil] at found
      obtain ⟨d, run, rfl⟩ := List.exists_cons_of_ne_nil nonempty
      rw [List.cons_append] at found
      rw [List.cons_append, Pattern.search, found, Option.some_or]
    · rename_i missed
      have other : run ≠ [] → ¬ ['x'] <+: c :: rest := by
        rintro nonempty ⟨_, same⟩
        exact missed ⟨(List.cons_eq_cons.1 same).1.symm, nonempty⟩
      rw [search_dividerPattern_run decimal ends other, idle, ih]

theorem firstRun_of_digitsBeforeX? {text run : List Char}
    (found : digitsBeforeX? [] text = some run) : FirstRun BeforeX text run := by
  induction text using runs_induction with
  | last front decimal =>
    rw [digitsBeforeX?_last decimal] at found
    cases found
  | next front c rest decimal stop ih =>
    rw [digitsBeforeX?_next decimal stop] at found
    split at found
    · rename_i hit
      obtain ⟨rfl, nonempty⟩ := hit
      cases found
      have whole : WholeRun (run ++ 'x' :: rest) [] run ('x' :: rest) :=
        ⟨rfl, nonempty, decimal, by simp, begins_of_cons stop rest⟩
      exact ⟨[], 'x' :: rest, whole, ⟨rest, rfl⟩, fun _ _ _ _ _ => Nat.zero_le _⟩
    · rename_i missed
      exact (ih found).skip decimal stop fun nonempty same => missed ⟨same, nonempty⟩

section Marker

variable {marker : List Char} (nonempty : marker ≠ [])
  (closed : ∀ c, [c] <:+ marker → isDigit c = false)

theorem search_behind (marker text : List Char) :
    Pattern.search (marker.map .char ++ [.digits]) text = digitsAfter? marker text := by
  induction text with
  | nil =>
    rw [Pattern.search, Pattern.matchFront_fixed, List.drop_nil]
    exact ite_self none
  | cons c text ih =>
    rw [Pattern.search, ih, Pattern.matchFront_fixed, Pattern.matchFront_digits, digitsAfter?]
    by_cases head : (c :: text).take marker.length = marker
    · by_cases digits : ((c :: text).drop marker.length).takeWhile isDigit = [] <;>
        simp [head, digits]
    · simp [head]

include nonempty closed

theorem firstRun_of_digitsAfter? {text run : List Char}
    (found : digitsAfter? marker text = some run) : FirstRun (Behind marker) text run := by
  induction text with
  | nil => cases found
  | cons c rest ih =>
    rw [digitsAfter?] at found
    split at found
    · rename_i hit
      obtain ⟨head, digits⟩ := hit
      cases found
      have split : marker ++ (c :: rest).drop marker.length = c :: rest := by
        conv_rhs => rw [← List.take_append_drop marker.length (c :: rest), head]
      have whole := WholeRun.of_takeWhile digits closed
      rw [split] at whole
      exact ⟨marker, _, whole, List.suffix_rfl, fun _ _ _ _ place => place.length_le⟩
    · rename_i missed
      obtain ⟨before, after, whole, place, least⟩ := ih found
      have some_before : before ≠ [] := fun empty => nonempty (List.suffix_nil.1 (empty ▸ place))
      refine ⟨c :: before, after, whole.cons some_before c,
        place.trans (List.suffix_cons c before), ?_⟩
      intro before' run' after' whole' place'
      rcases whole'.behind_cons nonempty place' with rfl | ⟨inner, rfl, whole'', place''⟩
      · -- The marker in front has no digit behind it, or it would have been a hit.
        refine absurd ⟨?_, whole'.run_eq ▸ whole'.nonempty⟩ missed
        rw [whole'.split, List.append_assoc, List.take_left]
      · exact Nat.succ_le_succ (least inner run' after' whole'' place'')

end Marker

/-- The outcome is the number of the first run in the right place: none without such a run, and a
fault when the run is too long. -/
structure ReadsFirst (place : Place) (text : List Char)
    (outcome : Except NumberFault (Option Nat)) : Prop where
  number_iff : ∀ n, outcome = .ok (some n) ↔
    ∃ run, FirstRun place text run ∧ run.length ≤ Numeral.digitLimit ∧ ofDigits run = n
  nothing_iff : outcome = .ok none ↔
    ¬ ∃ before run after, WholeRun text before run after ∧ place before after
  stops_iff : ∀ fault, outcome = .error fault ↔
    ∃ run, FirstRun place text run ∧ Numeral.digitLimit < run.length ∧
      fault = .tooManyDigits run.length

theorem readsFirst_number? {place : Place} {text : List Char} {scan : Option (List Char)}
    (found : ∀ run, scan = some run → FirstRun place text run)
    (missing : scan = none → ∀ before run after, WholeRun text before run after →
      ¬ place before after) : ReadsFirst place text (number? scan) := by
  cases scan with
  | none =>
    have absent : ∀ run, ¬ FirstRun place text run := by
      rintro run ⟨before, after, whole, here, _⟩
      exact missing rfl before run after whole here
    refine ⟨fun n => ?_, ?_, fun fault => ?_⟩
    · exact iff_of_false nofun fun ⟨run, first, _⟩ => absent run first
    · exact iff_of_true rfl fun ⟨before, run, after, whole, here⟩ =>
        missing rfl before run after whole here
    · exact iff_of_false nofun fun ⟨run, first, _⟩ => absent run first
  | some digits =>
    have first := found digits rfl
    have only : ∀ run, FirstRun place text run ↔ run = digits := fun run =>
      ⟨fun other => other.unique first, fun same => same ▸ first⟩
    have present : ∃ before run after, WholeRun text before run after ∧ place before after := by
      obtain ⟨before, after, whole, here, _⟩ := first
      exact ⟨before, digits, after, whole, here⟩
    rcases Nat.lt_or_ge Numeral.digitLimit digits.length with long | fits
    · have read := number?_of_long long
      have more : ¬ digits.length ≤ Numeral.digitLimit := Nat.not_le_of_lt long
      constructor <;> simp [read, only, present, long, more, eq_comm]
    · have read := number?_of_fits fits
      have short : ¬ Numeral.digitLimit < digits.length := Nat.not_lt_of_le fits
      constructor <;> simp [read, only, present, short, fits]

theorem readsFirst_beforeX (text : List Char) :
    ReadsFirst BeforeX text (number? (digitsBeforeX? [] text)) := by
  refine readsFirst_number? (fun run => firstRun_of_digitsBeforeX?) ?_
  intro missing before run after whole place
  have none_there := (digitsBeforeX?_eq_none_iff (by simp)).1 missing
  exact none_there (digitBeforeX_of_run whole place)

theorem readsFirst_behind {marker : List Char} (nonempty : marker ≠ [])
    (closed : ∀ c, [c] <:+ marker → isDigit c = false) (text : List Char) :
    ReadsFirst (Behind marker) text (number? (digitsAfter? marker text)) := by
  refine readsFirst_number? (fun run => firstRun_of_digitsAfter? nonempty closed) ?_
  intro missing before run after whole place
  exact digitsAfter?_eq_none_iff.1 missing (digitAfter_of_run whole place)

/-- Each of the three numbers is what its pattern captures in a search from the left, and that is the
first whole run of digits in front of an x, or behind the marker. -/
theorem readers_find_firstRun (label : String) :
    (divider? label = number? (dividerPattern.search label.toList) ∧
      ReadsFirst BeforeX label.toList (divider? label)) ∧
    (multiplier? label = number? (multiplierPattern.search label.toList) ∧
      ReadsFirst (Behind "by ".toList) label.toList (multiplier? label)) ∧
    busDivisor? label = number? (busPattern.search label.toList) ∧
      ReadsFirst (Behind "/".toList) label.toList (busDivisor? label) := by
  have blank : ∀ c, [c] <:+ "by ".toList → isDigit c = false :=
    ends_of_concat (by decide) ['b', 'y']
  have slash : ∀ c, [c] <:+ "/".toList → isDigit c = false := ends_of_concat (by decide) []
  refine ⟨⟨?_, readsFirst_beforeX _⟩, ⟨?_, readsFirst_behind (by decide) blank _⟩,
    ?_, readsFirst_behind (by decide) slash _⟩
  · exact congrArg number? (search_dividerPattern _).symm
  · exact congrArg number? (search_behind _ _).symm
  · exact congrArg number? (search_behind _ _).symm

example : divider? "12 34x 5x" = .ok (some 34) ∧ multiplier? "by by 5 by 6" = .ok (some 5) ∧
    busDivisor? "//4" = .ok (some 4) := by decide

end ConfigWords.Clock
