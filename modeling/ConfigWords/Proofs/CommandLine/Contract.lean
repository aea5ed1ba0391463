import ConfigWords.Proofs.CommandLine.Exits

/-! The contract of the exit status.
The command line promises to end with 0 or 2, with 2 exactly for a part or a file that it cannot use,
and without output unless it ends with 0. It keeps the promise except where a failure that it does
not catch escapes from the work on a file. -/
namespace ConfigWords.CommandLine

def Command.part? : Command → Option String
  | .devices => none
  | .compile _ part _ _ | .pins _ part _ => some part

def Known (part : String) : Prop := part ∈ Efh.parts.map (·.part)

section

variable (parse : String → Except Yaml.Fault Tree) (content : Except OpenFault ByteArray)

/-- The part is not in the catalogue, or the file does not hold what the command reads from it. -/
inductive Rejected : Command → Prop
  | part {c : Command} {part : String} : c.part? = some part → ¬ Known part → Rejected c
  | snapshot {file part : String} {fill : Bool} {form : WordForm} :
    (∀ s, ¬ HoldsSnapshot parse content file s) → Rejected (.compile file part fill form)
  | assignments {file part : String} {dialect : Render.Dialect} :
    (∀ assignments, ¬ HoldsAssignments parse content file assignments) →
    Rejected (.pins file part dialect)

/-- A failure escapes, after something has been written or before. -/
inductive Escapes : Command → Bool → Prop
  | compile {file part : String} {fill : Bool} {form : WordForm} {d : Description}
    {written : Bool} : Known part → Efh.description = .ok d →
    CompilingEscapes parse content d file fill form written →
    Escapes (.compile file part fill form) written
  | pins {file part : String} {dialect : Render.Dialect} {written : Bool} :
    Known part → RoutingEscapes parse content file written →
    Escapes (.pins file part dialect) written

/-- What is promised of the end of a command. -/
structure Contract (o : Outcome) (c : Command) : Prop where
  ends : o.exit = .ok 0 ∨ o.exit = .ok badInput
  refuses : o.exit = .ok badInput ↔ Rejected parse content c
  silent : o.exit ≠ .ok 0 → o.output = ""

end

theorem Completes.exit {x : Session Unit} (completes : Completes x) : (outcome x).exit = .ok 0 := by
  obtain ⟨next, run⟩ := completes {}
  rw [outcome, run]

theorem Refuses.exit {x : Session Unit} (refuses : Refuses x) :
    (outcome x).exit = .ok badInput ∧ (outcome x).output = "" := by
  obtain ⟨text, next, run, output⟩ := refuses {}
  rw [outcome, run]
  exact ⟨rfl, output⟩

theorem Crashes.exit {x : Session Unit} {written : Bool} (crashes : Crashes x written) :
    (∃ fault, (outcome x).exit = .error fault) ∧ ((outcome x).output ≠ "" ↔ written = true) := by
  obtain ⟨fault, next, more, run, output, amount⟩ := crashes {}
  have all : more = next.output := by simpa using output.symm
  subst all
  rw [outcome, run]
  exact ⟨⟨fault, rfl⟩, amount⟩

theorem completes_listParts (d : Description) : Completes (listParts d) := by
  unfold listParts
  induction d.variants.values with
  | nil => exact fun t => ⟨t, rfl⟩
  | cons v rest ih => exact (quiet_note _).completes (completes_write_bind _ ih)

section Command

variable {parse : String → Except Yaml.Fault Tree} {content : Except OpenFault ByteArray}

section Part

variable {d : Description} (bundled : Efh.Bundled d) {part : String}
  {work : Device → Session Unit}

include bundled

theorem refuses_withPart (unknown : ¬ Known part) : Refuses (withPart d part work) := by
  have absent : part ∉ Efh.parts.map (·.part) := unknown
  rw [withPart, bundled.parts_catalogue, attempt_ok, pure_bind, if_pos absent]
  exact refuses_throw _

theorem exists_withPart (known : Known part) :
    ∃ n device, device.description = d ∧
      withPart d part work = (note n >>= fun _ => work device) := by
  obtain ⟨device, found, same⟩ := bundled.exists_device known
  have present : ¬ part ∉ Efh.parts.map (·.part) := not_not.2 known
  refine ⟨⟨.debug, device.creationNote (.text part)⟩, device, same, ?_⟩
  rw [withPart, bundled.parts_catalogue, attempt_ok, pure_bind, if_neg present, found, attempt_ok]
  rfl

end Part

section Work

variable {d : Description} (read : Efh.description = .ok d) (bundled : Efh.Bundled d) {c : Command}

include read bundled

theorem crashes_command {written : Bool} (escapes : Escapes parse content c written) :
    Crashes (c.work content parse d) written := by
  have sound : d.Sound := Description.sound_of_ofTree read
  cases escapes with
  | compile known other stops =>
    cases read.symm.trans other
    obtain ⟨n, device, same, withKnown⟩ := exists_withPart bundled known
    subst same
    rw [Command.work, withKnown]
    exact (quiet_note n).crashes (crashes_compileFile sound bundled.writable stops)
  | pins known stops =>
    obtain ⟨n, device, same, withKnown⟩ := exists_withPart bundled known
    rw [Command.work, withKnown]
    exact (quiet_note n).crashes (crashes_pinsFile stops)

theorem refuses_command (none : ∀ written, ¬ Escapes parse content c written)
    (rejected : Rejected parse content c) : Refuses (c.work content parse d) := by
  cases c with
  | devices =>
    cases rejected with
    | part named _ => cases named
  | compile file part fill form =>
    by_cases known : Known part
    · obtain ⟨n, device, same, withKnown⟩ := exists_withPart bundled known
      subst same
      cases rejected with
      | part named unknown =>
        cases named
        exact absurd known unknown
      | snapshot empty =>
        rw [Command.work, withKnown]
        exact (quiet_note n).refuses (refuses_compileFile empty fun written stops =>
          none written (.compile known read stops))
    · exact refuses_withPart bundled known
  | pins file part dialect =>
    by_cases known : Known part
    · obtain ⟨n, device, same, withKnown⟩ := exists_withPart bundled known
      cases rejected with
      | part named unknown =>
        cases named
        exact absurd known unknown
      | assignments empty =>
        rw [Command.work, withKnown]
        exact (quiet_note n).refuses (refuses_pinsFile empty fun written stops =>
          none written (.pins known stops))
    · exact refuses_withPart bundled known

theorem completes_command (none : ∀ written, ¬ Escapes parse content c written)
    (accepted : ¬ Rejected parse content c) : Completes (c.work content parse d) := by
  have sound : d.Sound := Description.sound_of_ofTree read
  cases c with
  | devices => exact completes_listParts d
  | compile file part fill form =>
    have known : Known part := by
      by_contra unknown
      exact accepted (.part rfl unknown)
    obtain ⟨s, holds⟩ : ∃ s, HoldsSnapshot parse content file s := by
      by_contra empty
      exact accepted (.snapshot (not_exists.1 empty))
    obtain ⟨n, device, same, withKnown⟩ := exists_withPart bundled known
    subst same
    rw [Command.work, withKnown]
    exact (quiet_note n).completes (completes_compileFile sound bundled.writable holds
      fun written stops => none written (.compile known read stops))
  | pins file part dialect =>
    have known : Known part := by
      by_contra unknown
      exact accepted (.part rfl unknown)
    obtain ⟨assignments, holds⟩ : ∃ assignments, HoldsAssignments parse content file assignments := by
      by_contra empty
      exact accepted (.assignments (not_exists.1 empty))
    obtain ⟨n, device, same, withKnown⟩ := exists_withPart bundled known
    rw [Command.work, withKnown]
    exact (quiet_note n).completes (completes_pinsFile holds)

end Work

/-- A request ends as the work of its command on the family's own description does. -/
theorem exists_run (parse : String → Except Yaml.Fault Tree) (content : Except OpenFault ByteArray)
    (r : Request) :
    ∃ d, Efh.description = .ok d ∧ Efh.Bundled d ∧
      (r.run content parse).exit = (outcome (r.command.work content parse d)).exit ∧
      (r.run content parse).output = (outcome (r.command.work content parse d)).output := by
  obtain ⟨d, read, bundled⟩ := Efh.exists_description
  have work : r.work content parse = r.command.work content parse d := by
    rw [Request.work, read, attempt_ok, pure_bind, bundled.verify_catalogue, attempt_ok, pure_bind]
  rw [Request.run, work]
  exact ⟨d, read, bundled, rfl, rfl⟩

theorem exit_of_escapes {r : Request} {written : Bool}
    (escapes : Escapes parse content r.command written) :
    (∃ fault, (r.run content parse).exit = .error fault) ∧
      ((r.run content parse).output ≠ "" ↔ written = true) := by
  obtain ⟨d, read, bundled, exit, output⟩ := exists_run parse content r
  rw [exit, output]
  exact (crashes_command read bundled escapes).exit

theorem run_cases (parse : String → Except Yaml.Fault Tree) (content : Except OpenFault ByteArray)
    (r : Request) :
    (¬ Rejected parse content r.command ∧ (∀ written, ¬ Escapes parse content r.command written) ∧
      (r.run content parse).exit = .ok 0) ∨
    (Rejected parse content r.command ∧ (∀ written, ¬ Escapes parse content r.command written) ∧
      (r.run content parse).exit = .ok badInput ∧ (r.run content parse).output = "") ∨
    ∃ written, Escapes parse content r.command written := by
  obtain ⟨d, read, bundled, exit, output⟩ := exists_run parse content r
  rw [exit, output]
  by_cases escapes : ∃ written, Escapes parse content r.command written
  · exact .inr (.inr escapes)
  have none := not_exists.1 escapes
  by_cases rejected : Rejected parse content r.command
  · exact .inr (.inl ⟨rejected, none, (refuses_command read bundled none rejected).exit⟩)
  · exact .inl ⟨rejected, none, (completes_command read bundled none rejected).exit⟩

end Command

/-- The promise is kept exactly where no failure escapes. One that escapes ends the program without
a status, and only a frequency that cannot be estimated does so after something has been written. -/
theorem contract_iff (parse : String → Except Yaml.Fault Tree)
    (content : Except OpenFault ByteArray) (r : Request) :
    (Contract parse content (r.run content parse) r.command ↔
      ∀ written, ¬ Escapes parse content r.command written) ∧
    ∀ written, Escapes parse content r.command written ↔
      (∃ fault, (r.run content parse).exit = .error fault) ∧
        ((r.run content parse).output ≠ "" ↔ written = true) := by
  have different : (Except.ok badInput : Except Crash Nat) ≠ .ok 0 := nofun
  constructor
  · constructor
    · intro kept written escapes
      obtain ⟨⟨fault, crashed⟩, _⟩ := exit_of_escapes escapes
      rcases kept.ends with ended | ended <;> cases crashed.symm.trans ended
    · intro none
      rcases run_cases parse content r with
        ⟨accepted, _, ended⟩ | ⟨rejected, _, ended, silent⟩ | ⟨written, escapes⟩
      · refine ⟨.inl ended, iff_of_false ?_ accepted, fun other => absurd ended other⟩
        rw [ended]
        exact different.symm
      · exact ⟨.inr ended, iff_of_true ended rejected, fun _ => silent⟩
      · exact absurd escapes (none written)
  · intro written
    constructor
    · exact exit_of_escapes
    · rintro ⟨⟨fault, crashed⟩, amount⟩
      -- Only a failure that escapes ends without a status, and its output tells which kind it is.
      rcases run_cases parse content r with
        ⟨_, _, ended⟩ | ⟨_, _, ended, _⟩ | ⟨other, escapes⟩
      · cases crashed.symm.trans ended
      · cases crashed.symm.trans ended
      · have same : other = written := by
          rw [Bool.eq_iff_iff, ← (exit_of_escapes escapes).2, amount]
        exact same ▸ escapes

/-! A snapshot file whose only key is null. -/

def plainRequest : Request := ⟨false, .compile "s.yaml" Efh.defaultPart false .summary⟩

theorem parse_plainRequest : parse ["compile", "s.yaml"] = .ok plainRequest := by
  -- Requests have decidable equality, results have not.
  have same : (match parse ["compile", "s.yaml"] with
    | .ok r => decide (r = plainRequest)
    | .error _ => false) = true := by decide +kernel
  generalize parse ["compile", "s.yaml"] = parsed at same ⊢
  cases parsed with
  | ok r => rw [of_decide_eq_true same]
  | error _ => cases same

def nullKey : String := "~: x\n"

def nullKeyTree : Tree := .mapping [(.null, .text "x")]

def isNullKeyTree : Except Yaml.Fault Tree → Bool
  | .ok (.mapping [(.null, .scalar (.text "x"))]) => true
  | _ => false

theorem holds_nullKey : InputFile.Holds Yaml.read (.ok nullKey.toUTF8) "s.yaml" nullKeyTree := by
  have shape : isNullKeyTree (Yaml.read nullKey) = true := by decide +kernel
  have parsed : Yaml.read nullKey = .ok nullKeyTree := by
    generalize Yaml.read nullKey = result at shape ⊢
    unfold isNullKeyTree at shape
    split at shape
    · rfl
    · cases shape
  exact .text (by decide) rfl (InputFile.fromUTF8?_toUTF8 nullKey) parsed

theorem escapes_nullKey : Escapes Yaml.read (.ok nullKey.toUTF8) plainRequest.command false := by
  obtain ⟨d, read, _⟩ := Efh.exists_description
  have known : Known Efh.defaultPart := by
    unfold Known
    decide +kernel
  have unsuitable : Interchange.SnapshotEscapes nullKeyTree :=
    ⟨[], _, [], rfl, nofun, .index .null⟩
  exact .compile known read (.entry holds_nullKey unsuitable)

/-- The file has no snapshot, so it should be refused. -/
theorem null_key_escapes :
    parse ["compile", "s.yaml"] = .ok plainRequest ∧
      Rejected Yaml.read (.ok nullKey.toUTF8) plainRequest.command ∧
      ¬ Contract Yaml.read (.ok nullKey.toUTF8) (plainRequest.run (.ok nullKey.toUTF8))
        plainRequest.command := by
  refine ⟨parse_plainRequest, .snapshot ?_, ?_⟩
  · rintro s ⟨tree, holds, snapshot⟩
    have same := (InputFile.read_eq_ok_iff.2 holds).symm.trans
      (InputFile.read_eq_ok_iff.2 holds_nullKey)
    cases Except.ok.inj same
    have refused : Interchange.readSnapshot nullKeyTree =
      .error (.unsuitableIndex .unsuitable) := rfl
    cases refused.symm.trans (Interchange.readSnapshot_eq_ok_iff.2 snapshot)
  · intro kept
    obtain ⟨⟨fault, crashed⟩, _⟩ := exit_of_escapes escapes_nullKey
    rcases kept.ends with ended | ended <;> cases crashed.symm.trans ended

end ConfigWords.CommandLine
