import ConfigWords.Proofs.ChoiceOrder
import ConfigWords.Proofs.Clock
import ConfigWords.Proofs.CommandLine.Session
import ConfigWords.Proofs.Description.Legality
import ConfigWords.Proofs.Efh
import ConfigWords.Proofs.InputFile
import ConfigWords.Proofs.Interchange

/-! How the work on a file ends.
What the file holds decides: nothing that can be read, so that the work is refused; something that
makes a reader, a warning or an estimate fail without a report, so that it crashes; or else it is
done. Only the frequencies come after something has been written. -/
namespace ConfigWords

open Interchange

theorem Schema.writable_of_get? {schema : Schema} {index : Int} {setting : Setting}
    (short : schema.indices.all Numeral.writable = true)
    (known : schema.get? index = some setting) : Numeral.writable index = true :=
  List.all_eq_true.1 short index
    (OrderedMap.contains_eq_true_iff.1 (OrderedMap.contains_iff_exists.2 ⟨setting, known⟩))

theorem Description.Sound.writable_diagnostics_iff {d : Description} (sound : d.Sound)
    (short : d.schema.indices.all Numeral.writable = true) (s : Snapshot) :
    (∀ problem ∈ (Device.compilerOf d).diagnostics s, problem.writable = true) ↔
      ∀ index ∈ s.keys, Numeral.writable index = true := by
  constructor
  · intro writable index member
    obtain ⟨e, present, rfl⟩ := List.mem_map.1 member
    have ruling := sound.ruling e
    cases known : d.schema.get? e.1 with
    | some setting => exact Schema.writable_of_get? short known
    | none =>
      generalize judged : (Device.compilerOf d).judge e.1 e.2 = verdict at ruling
      cases ruling with
      | setting _ => exact writable _ (Compiler.mem_diagnostics_iff.2 ⟨_, present, judged⟩)
      | pass other _ | option other _ _ _ | write other _ _ _ _ =>
        rw [known] at other
        cases other
  · intro writable problem reported
    obtain ⟨e, present, judged⟩ := Compiler.mem_diagnostics_iff.1 reported
    have ruling := sound.ruling e
    rw [judged] at ruling
    cases ruling with
    | setting _ => exact writable _ (List.mem_map_of_mem present)
    | option _ _ _ _ => exact writable _ (List.mem_map_of_mem present)

namespace CommandLine

theorem writable_filled_iff {d : Description} {fill : Bool} {s : Snapshot}
    (short : d.schema.indices.all Numeral.writable = true) :
    (∀ index ∈ (filled d fill s).keys, Numeral.writable index = true) ↔
      ∀ index ∈ s.keys, Numeral.writable index = true := by
  cases fill with
  | false => rfl
  | true =>
    have indices : d.schema.defaults.keys = d.schema.indices := OrderedMap.keys_mapValues _ _
    simp only [filled, if_true, Schema.resolve, OrderedMap.mem_keys_overlay, indices]
    exact ⟨fun writable index member => writable index (.inl member), fun writable index member =>
      member.elim (writable index) (List.all_eq_true.1 short index)⟩

def Interrupted (s : Snapshot) : Prop :=
  Clock.SystemStops s ∨ Clock.DivisorStops s 40 ∨ Clock.DivisorStops s 41

theorem interrupted_iff {s : Snapshot} :
    Interrupted s ↔ (∃ fault, Clock.systemFrequency s = .error fault) ∨
      (∃ fault, Clock.busFrequency s 2 = .error fault) ∨
      ∃ fault, Clock.busFrequency s 3 = .error fault := by
  rw [Clock.systemFrequency_eq_error_iff, Clock.busFrequency_eq_error_iff s 2 rfl,
    Clock.busFrequency_eq_error_iff s 3 rfl, Interrupted]
  tauto

theorem exists_frequencyLine (name : String) (mhz : Binary64) :
    ∃ line, line ≠ "" ∧ writeFrequency name (.ok mhz) = write line := by
  refine ⟨_, ?_, rfl⟩
  intro empty
  have unit := (String.append_eq_empty_iff.1 empty).2
  exact absurd unit (by decide)

theorem completes_frequencies {s : Snapshot} (whole : ¬ Interrupted s) :
    Completes (writeFrequencies s) := by
  simp only [interrupted_iff, not_or, not_exists] at whole
  obtain ⟨first, second, third⟩ := whole
  unfold writeFrequencies
  cases system : Clock.systemFrequency s with
  | error fault => exact absurd system (first fault)
  | ok x =>
    cases timer : Clock.busFrequency s 2 with
    | error fault => exact absurd timer (second fault)
    | ok y =>
      cases other : Clock.busFrequency s 3 with
      | error fault => exact absurd other (third fault)
      | ok z =>
        exact completes_write_bind _ (completes_write_bind _ (completes_write _))

theorem crashes_frequencies {s : Snapshot} (interrupted : Interrupted s) :
    ∃ written, Crashes (writeFrequencies s) written := by
  unfold writeFrequencies
  cases system : Clock.systemFrequency s with
  | error fault => exact ⟨_, crashes_throw _⟩
  | ok x =>
    obtain ⟨line, some, written⟩ := exists_frequencyLine "SYSCLK" x
    rw [written]
    cases timer : Clock.busFrequency s 2 with
    | error fault => exact ⟨_, crashes_write_bind some (crashes_throw _)⟩
    | ok y =>
      obtain ⟨line, other, written⟩ := exists_frequencyLine "PBCLK2" y
      rw [written]
      cases last : Clock.busFrequency s 3 with
      | error fault => exact ⟨_, crashes_write_bind some (crashes_write_bind other (crashes_throw _))⟩
      | ok z => simp [interrupted_iff, system, timer, last] at interrupted

section Words

variable {device : Device} {s : Snapshot} {image : Image} {form : WordForm}
  (covers : ∀ name ∈ device.description.registers.keys, image.words.contains name = true)

include covers

theorem completes_words (whole : ¬ (form = .summary ∧ Interrupted s)) :
    Completes (writeWords device s image form) := by
  cases form with
  | pragmas => exact completes_write _
  | header =>
    obtain ⟨text, rendered⟩ := Render.exists_header covers
    rw [writeWords, rendered]
    exact completes_write text
  | summary =>
    obtain ⟨text, rendered, _⟩ := Render.exists_summary covers
    rw [writeWords, rendered]
    exact completes_write_bind text (completes_frequencies fun stops => whole ⟨rfl, stops⟩)

theorem crashes_words (interrupted : Interrupted s) :
    Crashes (writeWords device s image .summary) true := by
  obtain ⟨text, rendered, some⟩ := Render.exists_summary covers
  obtain ⟨written, stops⟩ := crashes_frequencies interrupted
  rw [writeWords, rendered]
  exact crashes_write_bind some stops

end Words

theorem crashes_attempt {ε α : Type} {failure? : ε → Option Failure} {crash : ε → Crash}
    {result : Except ε α} (silent : ∃ fault, result = .error fault ∧ failure? fault = none) :
    Crashes (attempt (fun fault => endingOf (failure? fault) (crash fault)) result : Session α)
      false := by
  obtain ⟨fault, rfl, unreported⟩ := silent
  rw [attempt_error, unreported]
  exact crashes_throw _

theorem refuses_attempt {ε α : Type} {failure? : ε → Option Failure} {crash : ε → Crash}
    {result : Except ε α} (failed : ∀ a, result ≠ .ok a)
    (reported : ¬ ∃ fault, result = .error fault ∧ failure? fault = none) :
    Refuses (attempt (fun fault => endingOf (failure? fault) (crash fault)) result :
      Session α) := by
  cases result with
  | ok a => exact absurd rfl (failed a)
  | error fault =>
    cases told : failure? fault with
    | none => exact absurd ⟨fault, rfl, told⟩ reported
    | some failure =>
      rw [attempt_error, told]
      exact refuses_throw _

section Files

variable (parse : String → Except Yaml.Fault Tree) (content : Except OpenFault ByteArray)

def HoldsSnapshot (file : String) (s : Snapshot) : Prop :=
  ∃ tree, InputFile.Holds parse content file tree ∧ SnapshotOf tree s

def HoldsAssignments (file : String) (assignments : List Assignment) : Prop :=
  ∃ tree, InputFile.Holds parse content file tree ∧ AssignmentsOf tree assignments

/-- The ways in which compiling a file fails without a report, and whether something has been
written by then. -/
inductive CompilingEscapes (d : Description) (file : String) (fill : Bool) (form : WordForm) :
    Bool → Prop
  | file : InputFile.Unreadable parse content file → CompilingEscapes d file fill form false
  | entry {tree : Tree} : InputFile.Holds parse content file tree → SnapshotEscapes tree →
    CompilingEscapes d file fill form false
  /-- The warning about an unknown index cannot be put in words. -/
  | warning {s : Snapshot} {index : Int} : HoldsSnapshot parse content file s → index ∈ s.keys →
    Numeral.writable index = false → CompilingEscapes d file fill form false
  /-- The words have been written when a frequency cannot be estimated. -/
  | frequency {s : Snapshot} : HoldsSnapshot parse content file s →
    (∀ index ∈ s.keys, Numeral.writable index = true) → form = .summary →
    Interrupted (filled d fill s) → CompilingEscapes d file fill form true

/-- The ways in which routing the assignments of a file fails without a report. -/
inductive RoutingEscapes (file : String) : Bool → Prop
  | file : InputFile.Unreadable parse content file → RoutingEscapes file false
  | entry {tree : Tree} : InputFile.Holds parse content file tree → AssignmentsEscape tree →
    RoutingEscapes file false

variable {parse content} {file : String} {tree : Tree}

theorem readInput_eq (holds : InputFile.Holds parse content file tree) :
    readInput content parse file = pure tree := by
  rw [readInput, InputFile.read_eq_ok_iff.2 holds, attempt_ok]

theorem crashes_readInput (unreadable : InputFile.Unreadable parse content file) :
    Crashes (readInput content parse file) false :=
  crashes_attempt (InputFile.read_unreported_iff.2 unreadable)

theorem refuses_readInput_bind {f : Tree → Session Unit}
    (readable : ¬ InputFile.Unreadable parse content file)
    (each : ∀ tree, InputFile.Holds parse content file tree → Refuses (f tree)) :
    Refuses (readInput content parse file >>= f) := by
  by_cases holds : ∃ tree, InputFile.Holds parse content file tree
  · obtain ⟨tree, present⟩ := holds
    rw [readInput_eq present, pure_bind]
    exact each tree present
  · have empty := not_exists.1 holds
    exact (refuses_attempt (fun tree done => empty tree (InputFile.read_eq_ok_iff.1 done))
      (mt InputFile.read_unreported_iff.1 readable)).bind

section Compiling

variable {device : Device} {fill : Bool} {form : WordForm}

theorem compileFile_eq {s : Snapshot} {result : Compiled}
    (holds : HoldsSnapshot parse content file s)
    (compiled : device.compiler.compile (filled device.description fill s) = .ok result) :
    compileFile content parse device file fill form = (do
      result.diagnostics.forM warn
      writeWords device (filled device.description fill s) result.image form) := by
  obtain ⟨tree, present, snapshot⟩ := holds
  rw [compileFile, readInput_eq present, pure_bind, readSnapshot_eq_ok_iff.2 snapshot, attempt_ok,
    pure_bind, compileSnapshot, compiled, attempt_ok, pure_bind]

theorem refuses_compileFile (empty : ∀ s, ¬ HoldsSnapshot parse content file s)
    (none : ∀ written, ¬ CompilingEscapes parse content device.description file fill form written) :
    Refuses (compileFile content parse device file fill form) :=
  refuses_readInput_bind (fun unreadable => none false (.file unreadable)) fun tree present =>
    (refuses_attempt (fun s read => empty s ⟨tree, present, readSnapshot_eq_ok_iff.1 read⟩)
      fun silent => none false (.entry present (readSnapshot_unreported_iff.1 silent))).bind

variable (sound : device.description.Sound)
  (short : device.description.schema.indices.all Numeral.writable = true)

include sound

theorem exists_compileFile (fill : Bool) (form : WordForm) {s : Snapshot}
    (holds : HoldsSnapshot parse content file s) :
    ∃ image, (∀ name ∈ device.description.registers.keys, image.words.contains name = true) ∧
      compileFile content parse device file fill form = (do
        ((Device.compilerOf device.description).diagnostics
          (filled device.description fill s)).forM warn
        writeWords device (filled device.description fill s) image form) := by
  have declared : (Device.compilerOf device.description).Declared := sound.declared
  obtain ⟨result, compiled⟩ :=
    Compiler.exists_compile declared (filled device.description fill s)
  refine ⟨result.image, Compiler.covers_compile declared compiled, ?_⟩
  rw [compileFile_eq holds compiled, Compiler.diagnostics_of_compile compiled]

include short

theorem writable_problems_iff (fill : Bool) (s : Snapshot) :
    (∀ problem ∈ (Device.compilerOf device.description).diagnostics
      (filled device.description fill s), problem.writable = true) ↔
      ∀ index ∈ s.keys, Numeral.writable index = true := by
  rw [sound.writable_diagnostics_iff short, writable_filled_iff short]

theorem crashes_compileFile {written : Bool}
    (escapes : CompilingEscapes parse content device.description file fill form written) :
    Crashes (compileFile content parse device file fill form) written := by
  cases escapes with
  | file unreadable => exact (crashes_readInput unreadable).bind
  | entry present stopped =>
    rw [compileFile, readInput_eq present, pure_bind]
    exact (crashes_attempt (readSnapshot_unreported_iff.2 stopped)).bind
  | @warning s index holds member long =>
    obtain ⟨image, _, same⟩ := exists_compileFile sound fill form holds
    rw [same]
    refine (crashes_warnings ?_).bind
    by_contra none
    -- If every warning could be put in words, so could every index of the file.
    have writable := (writable_problems_iff sound short fill s).1 fun problem reported =>
      by simpa using fun unwritable => none ⟨problem, reported, unwritable⟩
    simp [writable index member] at long
  | frequency holds writable summary interrupted =>
    obtain ⟨image, covers, same⟩ := exists_compileFile sound fill form holds
    subst summary
    rw [same]
    exact (quiet_warnings ((writable_problems_iff sound short _ _).2 writable)).crashes
      (crashes_words covers interrupted)

theorem completes_compileFile {s : Snapshot} (holds : HoldsSnapshot parse content file s)
    (none : ∀ written, ¬ CompilingEscapes parse content device.description file fill form written) :
    Completes (compileFile content parse device file fill form) := by
  obtain ⟨image, covers, same⟩ := exists_compileFile sound fill form holds
  have writable : ∀ index ∈ s.keys, Numeral.writable index = true := by
    intro index member
    by_contra long
    exact none false (.warning holds member (by simpa using long))
  rw [same]
  exact (quiet_warnings ((writable_problems_iff sound short _ _).2 writable)).completes
    (completes_words covers fun ⟨summary, interrupted⟩ =>
      none true (.frequency holds writable summary interrupted))

end Compiling

section Routing

variable {device : Device} {dialect : Render.Dialect}

theorem crashes_pinsFile {written : Bool} (escapes : RoutingEscapes parse content file written) :
    Crashes (pinsFile content parse device file dialect) written := by
  cases escapes with
  | file unreadable => exact (crashes_readInput unreadable).bind
  | entry present stopped =>
    rw [pinsFile, readInput_eq present, pure_bind]
    exact (crashes_attempt (readAssignments_unreported_iff.2 stopped)).bind

theorem completes_pinsFile {assignments : List Assignment}
    (holds : HoldsAssignments parse content file assignments) :
    Completes (pinsFile content parse device file dialect) := by
  obtain ⟨tree, present, listed⟩ := holds
  rw [pinsFile, readInput_eq present, pure_bind, readAssignments_eq_ok_iff.2 listed, attempt_ok,
    pure_bind]
  exact (quiet_notes _).completes (completes_write _)

theorem refuses_pinsFile (empty : ∀ assignments, ¬ HoldsAssignments parse content file assignments)
    (none : ∀ written, ¬ RoutingEscapes parse content file written) :
    Refuses (pinsFile content parse device file dialect) :=
  refuses_readInput_bind (fun unreadable => none false (.file unreadable)) fun tree present =>
    (refuses_attempt
      (fun assignments read => empty assignments ⟨tree, present, readAssignments_eq_ok_iff.1 read⟩)
      fun silent => none false (.entry present (readAssignments_unreported_iff.1 silent))).bind

end Routing
end Files
end CommandLine
end ConfigWords
