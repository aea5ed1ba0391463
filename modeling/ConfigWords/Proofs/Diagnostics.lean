import ConfigWords.Proofs.Compiler
import ConfigWords.Proofs.Outcome
import Mathlib.Data.List.TakeWhile

/-! What compiling reports.
Each problem is about one entry of the snapshot, and an entry that is neither passed over nor
reported is written. -/
namespace ConfigWords

def Diagnostic.setting? : Diagnostic → Option Int
  | .unknownSetting index _ | .unknownOption index _ _ => some index
  | .bare | .invalidRouting _ _ _ _ | .pinConflict _ => none

namespace Compiler

variable {c : Compiler} {s : Snapshot}

theorem setting?_of_judge {index : Int} {label : String} {problem : Diagnostic}
    (judged : c.judge index label = .report problem) : problem.setting? = some index := by
  unfold judge at judged
  split at judged
  · cases judged
  · split at judged
    · cases judged
      rfl
    · split at judged
      · cases judged
        rfl
      · cases judged

theorem judge_eq_pass_iff {index : Int} {label : String} :
    c.judge index label = .pass ↔ index ∈ c.informational := by
  unfold judge
  split
  · simp_all
  · split
    · simp_all
    · split <;> simp_all

theorem mem_diagnostics_iff {problem : Diagnostic} :
    problem ∈ c.diagnostics s ↔ ∃ e ∈ s.entries, c.judge e.1 e.2 = .report problem := by
  rw [diagnostics, List.mem_filterMap]
  refine exists_congr fun e => and_congr_right fun _ => ?_
  cases c.judge e.1 e.2 <;> simp

theorem diagnostics_of_compile {result : Compiled} (compiled : c.compile s = .ok result) :
    result.diagnostics = c.diagnostics s := by
  obtain ⟨_, _, done⟩ := bind_eq_ok.1 compiled
  cases pure_eq_ok.1 done
  rfl

/-- The snapshot has an entry for the setting, it is not passed over, and nothing is reported about
it. -/
def Applied (c : Compiler) (s : Snapshot) (result : Compiled) (index : Int) : Prop :=
  s.contains index = true ∧ index ∉ c.informational ∧
    ∀ problem ∈ result.diagnostics, problem.setting? ≠ some index

theorem applied_iff {result : Compiled} (compiled : c.compile s = .ok result) {index : Int} :
    c.Applied s result index ↔
      ∃ label f value, s.get? index = some label ∧ c.judge index label = .write f value := by
  rw [Applied, diagnostics_of_compile compiled, OrderedMap.contains_iff_exists]
  constructor
  · rintro ⟨⟨label, chosen⟩, counted, silent⟩
    cases judged : c.judge index label with
    | pass => exact absurd (judge_eq_pass_iff.1 judged) counted
    | report problem =>
      have member := OrderedMap.get?_eq_some_iff.1 chosen
      have reported := mem_diagnostics_iff.2 ⟨_, member, judged⟩
      exact absurd (setting?_of_judge judged) (silent problem reported)
    | write f value => exact ⟨label, f, value, chosen, judged⟩
  · rintro ⟨label, f, value, chosen, judged⟩
    refine ⟨⟨label, chosen⟩, (judge_eq_write_iff.1 judged).1, ?_⟩
    intro problem reported about
    obtain ⟨e, member, other⟩ := mem_diagnostics_iff.1 reported
    have same : e.1 = index := Option.some.inj ((setting?_of_judge other).symm.trans about)
    have found : s.get? e.1 = some e.2 := OrderedMap.get?_of_mem member
    rw [same, chosen] at found
    rw [same, ← Option.some.inj found, judged] at other
    cases other

/-! The log of compiling has a line for each problem, up to the first that cannot be put in words. -/

section Log

variable {lines : List String} {result : Compiled}

theorem run_log_of_writable {problem : Diagnostic} (shown : problem.writable = true) :
    (log problem).run.run lines = (.ok (), lines ++ [problem.message]) := by
  rw [log, if_pos shown]
  rfl

theorem run_log_of_unwritable {problem : Diagnostic} (unshown : problem.writable = false) :
    (log problem).run.run lines = (.error (.unwritable problem), lines) := by
  rw [log, if_neg (by simp [unshown])]
  rfl

theorem run_forM_log (problems : List Diagnostic) (lines : List String) :
    (problems.forM log).run.run lines =
      (match problems.find? fun problem => !problem.writable with
        | some problem => .error (.unwritable problem)
        | none => .ok (),
      lines ++ (problems.takeWhile Diagnostic.writable).map Diagnostic.message) := by
  induction problems generalizing lines with
  | nil => exact Prod.ext rfl (List.append_nil lines).symm
  | cons problem rest ih =>
    change (log problem >>= fun _ => rest.forM log).run.run lines = _
    cases shown : problem.writable with
    | true =>
      rw [run_bind_of_ok (run_log_of_writable shown), ih, List.find?_cons_of_neg (by simp [shown]),
        List.takeWhile_cons_of_pos shown, List.map_cons, List.append_assoc]
      rfl
    | false =>
      rw [run_bind_of_error (run_log_of_unwritable shown), List.find?_cons_of_pos (by simp [shown]),
        List.takeWhile_cons_of_neg (by simp [shown]), List.map_nil, List.append_nil]

/-- The first problem that cannot be put in words stops the compiling, with those before it
logged. -/
theorem run_compileLogged (compiled : c.compile s = .ok result) (lines : List String) :
    (c.compileLogged s).run.run lines =
      (match result.diagnostics.find? fun problem => !problem.writable with
        | some problem => .error (.unwritable problem)
        | none => .ok result.image,
      lines ++ (result.diagnostics.takeWhile Diagnostic.writable).map Diagnostic.message) := by
  have loop := run_forM_log result.diagnostics lines
  rw [compileLogged, compiled]
  cases hit : result.diagnostics.find? fun problem => !problem.writable with
  | some problem =>
    rw [hit] at loop
    exact run_bind_of_error loop
  | none =>
    rw [hit] at loop
    exact run_bind_of_ok loop

/-- With a log there is an image exactly if there is one without and every problem can be put in
words; the log then has a line for each of them. -/
theorem run_compileLogged_eq_ok_iff {image : Image} {after : List String} :
    (c.compileLogged s).run.run lines = (.ok image, after) ↔
      ∃ result, c.compile s = .ok result ∧ result.image = image ∧
        (∀ problem ∈ result.diagnostics, problem.writable = true) ∧
        after = lines ++ result.diagnostics.map Diagnostic.message := by
  cases compiled : c.compile s with
  | error fault =>
    have stopped : (c.compileLogged s).run.run lines = (.error (.register fault), lines) := by
      rw [compileLogged, compiled]
      rfl
    rw [stopped]
    exact iff_of_false nofun nofun
  | ok result =>
    rw [run_compileLogged compiled]
    cases hit : result.diagnostics.find? fun problem => !problem.writable with
    | some problem =>
      have unshown : problem.writable = false := by simpa using List.find?_some hit
      refine iff_of_false nofun ?_
      rintro ⟨_, same, _, shown, _⟩
      cases same
      simpa [unshown] using shown problem (List.mem_of_find?_eq_some hit)
    | none =>
      have shown : ∀ problem ∈ result.diagnostics, problem.writable = true := by simpa using hit
      have all : result.diagnostics.takeWhile Diagnostic.writable = result.diagnostics :=
        List.takeWhile_eq_self_iff.2 shown
      rw [all]
      constructor
      · rintro ⟨⟩
        exact ⟨result, rfl, rfl, shown, rfl⟩
      · rintro ⟨_, same, rfl, _, rfl⟩
        cases same
        rfl

/-- Compiling with a log gives the image, whatever has been logged before. -/
def Gives (c : Compiler) (s : Snapshot) (image : Image) : Prop :=
  ∀ lines, ∃ after, (c.compileLogged s).run.run lines = (.ok image, after)

theorem gives_iff (compiled : c.compile s = .ok result) {image : Image} :
    c.Gives s image ↔
      result.image = image ∧ ∀ problem ∈ result.diagnostics, problem.writable = true := by
  constructor
  · intro gives
    obtain ⟨_, run⟩ := gives []
    obtain ⟨_, same, found, shown, _⟩ := run_compileLogged_eq_ok_iff.1 run
    cases compiled.symm.trans same
    exact ⟨found, shown⟩
  · rintro ⟨found, shown⟩ lines
    exact ⟨_, run_compileLogged_eq_ok_iff.2 ⟨result, compiled, found, shown, rfl⟩⟩

end Log

end Compiler
end ConfigWords
