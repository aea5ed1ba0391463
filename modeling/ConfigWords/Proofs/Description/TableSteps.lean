import ConfigWords.Proofs.Description.Steps
import ConfigWords.Proofs.Pins.Tables

/-! The steps of putting the pin tables together.
First no group, no input signal and no output pin may come twice; then each group, each signal and
each pin is looked at on its own. What is wrong is put in words with the numbers that are concerned,
and a number that cannot be written out stops the reading. -/
namespace ConfigWords.Description

/-- Where the need is not met, the numbers are written out. -/
def Step.shown (needs : Prop) (numbers : List Int) : Step :=
  ⟨needs, fun n => n = .unwritable ∧ ¬ needs ∧ ∃ k ∈ numbers, Numeral.writable k = false⟩

/-- The numbers differ; the first that has come before is written out. -/
def numbersStep (numbers : List Int) : Step :=
  ⟨numbers.Nodup, fun n => n = .unwritable ∧ ∃ before k after,
    numbers = before ++ k :: after ∧ before.Nodup ∧ k ∈ before ∧ Numeral.writable k = false⟩

def groupTableStep (g : PinGroup) : Step := .shown g.selectors.Nodup [g.number]

/-- The group of the signal has its selectors; if not, those that it lacks are written out. -/
def inputTableStep (groups : List PinGroup) (s : InputSignal) : Step :=
  match groups.find? fun g => g.number == s.group with
  | none => .shown False [s.group]
  | some g => .shown (∀ k ∈ s.selectors, k ∈ g.selectors)
      ((s.selectors.filter fun k => k ∉ g.selectors) ++ [s.group])

def outputTableStep (groups : List PinGroup) (p : OutputPin) : Step :=
  match groups.find? fun g => g.number == p.group with
  | none => .shown False [p.group]
  | some g => .all [.shown (p.pin ∈ g.pins.map (·.pin)) [p.group],
      .check (p.outputs.map (·.selector)).Nodup]

def tablesStep (groups : List PinGroup) (inputs : List InputSignal) (outputs : List OutputPin) :
    Step :=
  .all [numbersStep (groups.map (·.number)), .check (inputs.map (·.signal)).Nodup,
    .check (outputs.map (·.pin)).Nodup, .all (groups.map groupTableStep),
    .all (inputs.map (inputTableStep groups)), .all (outputs.map (outputTableStep groups))]

theorem ofPins_eq_number_iff {fault : PinFault} {n : NumberFault} :
    DescriptionFault.ofPins fault = .number n ↔
      n = .unwritable ∧ ∃ k ∈ fault.shown, Numeral.writable k = false := by
  have unshown : (∃ k ∈ fault.shown, Numeral.writable k = false) ↔
      fault.shown.all Numeral.writable = false := by
    simp only [List.all_eq_false, Bool.not_eq_true]
  rw [unshown]
  unfold DescriptionFault.ofPins
  cases fault.shown.all Numeral.writable <;> simp [eq_comm]

section Tables

variable {α β : Type} {x : Except PinFault α} {s : Step} {steps : List Step}

theorem follows_ofPins (passed : (∃ a, x = .ok a) ↔ s.passed)
    (stopped : ∀ n, s.stopped n ↔
      n = .unwritable ∧ ∃ fault, x = .error fault ∧ ∃ k ∈ fault.shown, Numeral.writable k = false) :
    Follows (x.mapError .ofPins) s := by
  refine ⟨by simpa only [mapError_eq_ok] using passed, fun n => ?_⟩
  rw [StopsAt, mapError_eq_error, stopped]
  simp only [ofPins_eq_number_iff, exists_and_left, and_left_comm]

theorem follows_shown {needs : Prop} {numbers : List Int} (met : needs → ∃ a, x = .ok a)
    (unmet : ¬ needs → ∃ fault, x = .error fault ∧ ∀ k, k ∈ fault.shown ↔ k ∈ numbers) :
    Follows (x.mapError .ofPins) (.shown needs numbers) := by
  by_cases holds : needs
  · obtain ⟨a, rfl⟩ := met holds
    exact follows_ok_iff.2 ⟨holds, fun n stop => stop.2.1 holds⟩
  · obtain ⟨fault, rfl, shown⟩ := unmet holds
    refine follows_error_iff.2 ⟨holds, fun n => ?_⟩
    rw [ofPins_eq_number_iff]
    simp [Step.shown, holds, shown]

theorem mapError_bind {f : α → Except PinFault β} :
    (x >>= f).mapError DescriptionFault.ofPins =
      x.mapError .ofPins >>= fun a => (f a).mapError .ofPins := by
  cases x <;> rfl

theorem follows_forM {check : β → Except PinFault Unit} {step : β → Step} (items : List β)
    (each : ∀ item, Follows ((check item).mapError .ofPins) (step item)) :
    Follows ((items.forM check).mapError .ofPins) (.all (items.map step)) := by
  induction items with
  | nil => exact follows_pure ()
  | cons item rest ih =>
    change Follows ((check item >>= fun _ => rest.forM check).mapError .ofPins) _
    rw [mapError_bind]
    exact (each item).seq fun _ _ => ih

end Tables

theorem follows_numbers (groups : List PinGroup) :
    Follows ((PinTables.index (·.number) .duplicateGroup groups).mapError .ofPins)
      (numbersStep (groups.map (·.number))) := by
  refine follows_ofPins PinTables.exists_index_iff fun n => ?_
  simp only [PinTables.index_eq_error_iff, numbersStep]
  refine and_congr_right' ?_
  constructor
  · rintro ⟨before, k, after, listed, nodup, taken, unshown⟩
    exact ⟨_, ⟨before, k, after, listed, nodup, taken, rfl⟩, k, by simp [PinFault.shown], unshown⟩
  · rintro ⟨_, ⟨before, k, after, listed, nodup, taken, rfl⟩, j, member, unshown⟩
    cases List.mem_singleton.1 member
    exact ⟨before, k, after, listed, nodup, taken, unshown⟩

theorem follows_names {V : Type} {name : V → String} {fault : String → PinFault}
    (shown : ∀ s, (fault s).shown = []) (items : List V) :
    Follows ((PinTables.index name fault items).mapError .ofPins)
      (.check (items.map name).Nodup) := by
  refine follows_ofPins PinTables.exists_index_iff fun n => ?_
  simp only [PinTables.index_eq_error_iff, Step.check, false_iff]
  rintro ⟨_, _, ⟨_, k, _, _, _, _, rfl⟩, j, member, _⟩
  rw [shown] at member
  cases member

theorem follows_checkGroup (g : PinGroup) :
    Follows ((PinTables.checkGroup g).mapError .ofPins) (groupTableStep g) := by
  refine follows_shown (fun nodup => ⟨(), PinTables.checkGroup_eq_ok_iff.2 nodup⟩) fun repeated => ?_
  exact ⟨.repeatedSelector g.number, if_neg repeated, fun k => Iff.rfl⟩

section References

variable {groups : List PinGroup} {m : OrderedMap Int PinGroup}
  (entries : m.entries = groups.map fun g => (g.number, g))

include entries

theorem follows_checkInput (s : InputSignal) :
    Follows ((PinTables.checkInput m s).mapError .ofPins) (inputTableStep groups s) := by
  unfold PinTables.checkInput inputTableStep
  rw [PinTables.get?_of_entries entries]
  cases groups.find? fun g => g.number == s.group with
  | none => exact follows_shown nofun fun _ => ⟨_, rfl, fun k => Iff.rfl⟩
  | some g =>
    have held : (s.selectors.filter fun k => k ∉ g.selectors) = [] ↔
        ∀ k ∈ s.selectors, k ∈ g.selectors := by simp [List.filter_eq_nil_iff]
    dsimp only
    rw [← held]
    cases missing : s.selectors.filter fun k => k ∉ g.selectors with
    | nil => exact follows_shown (fun _ => ⟨(), rfl⟩) fun some_missing => (some_missing rfl).elim
    | cons k rest =>
      refine follows_shown nofun fun _ => ⟨_, rfl, fun j => ?_⟩
      simp [PinFault.shown, sortedDistinct, mem_distinct, or_assoc]

theorem follows_checkOutput (p : OutputPin) :
    Follows ((PinTables.checkOutput m p).mapError .ofPins) (outputTableStep groups p) := by
  unfold PinTables.checkOutput outputTableStep
  rw [PinTables.get?_of_entries entries]
  cases groups.find? fun g => g.number == p.group with
  | none => exact follows_shown nofun fun _ => ⟨_, rfl, fun k => Iff.rfl⟩
  | some g =>
    by_cases member : p.pin ∈ g.pins.map (·.pin)
    · have present : ¬ (g.entry? p.pin).isNone = true := by
        rw [PinTables.entry?_isNone_iff]
        exact not_not_intro member
      dsimp only
      rw [if_neg present]
      refine Follows.skip (a := ()) (follows_ok_iff.2 ⟨member, fun n stop => stop.2.1 member⟩) ?_
      refine Follows.single ?_
      split
      · exact follows_ok_iff.2 ⟨‹_›, fun _ => id⟩
      · exact follows_refused ‹_› rfl
    · dsimp only
      rw [if_pos (PinTables.entry?_isNone_iff.2 member)]
      have refused : Follows
          ((.error (.notMember p.pin p.group) : Except PinFault Unit).mapError .ofPins)
          (.shown (p.pin ∈ g.pins.map (·.pin)) [p.group]) :=
        follows_shown (fun there => absurd there member) fun _ => ⟨_, rfl, fun k => Iff.rfl⟩
      exact refused.stop

end References

theorem follows_build (groups : List PinGroup) (inputs : List InputSignal)
    (outputs : List OutputPin) :
    Follows ((PinTables.build groups inputs outputs).mapError .ofPins)
      (tablesStep groups inputs outputs) := by
  unfold PinTables.build tablesStep
  rw [mapError_bind]
  refine (follows_numbers groups).seq fun gs listed => ?_
  have entries := PinTables.index_eq_ok_iff.1 (mapError_eq_ok.1 listed)
  rw [mapError_bind]
  refine (follows_names (fun _ => rfl) inputs).seq fun is signals => ?_
  rw [mapError_bind]
  refine (follows_names (fun _ => rfl) outputs).seq fun os pins => ?_
  have signals := PinTables.index_eq_ok_iff.1 (mapError_eq_ok.1 signals)
  have pins := PinTables.index_eq_ok_iff.1 (mapError_eq_ok.1 pins)
  rw [PinTables.values_of_entries entries, PinTables.values_of_entries signals,
    PinTables.values_of_entries pins, mapError_bind]
  refine (follows_forM groups follows_checkGroup).seq fun _ _ => ?_
  rw [mapError_bind]
  refine (follows_forM inputs (follows_checkInput entries)).seq fun _ _ => ?_
  rw [mapError_bind]
  exact ((follows_forM outputs (follows_checkOutput entries)).map _).single

end ConfigWords.Description
