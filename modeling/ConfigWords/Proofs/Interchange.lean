import ConfigWords.Interchange
import ConfigWords.Proofs.Outcome

/-! Which trees hold a snapshot or a list of assignments, and which make their reader fail without
a report. Entries are read from the first to the last, so the first that has no reading decides. -/
namespace ConfigWords.Interchange

/-- A key that denotes an index, with a text for a label. -/
inductive Chooses : Scalar × Tree → Int × String → Prop
  | entry {key : Scalar} {index : Int} {label : String} :
    key.toInt = .ok index → Chooses (key, .text label) (index, label)

inductive SnapshotOf (tree : Tree) : Snapshot → Prop
  | nothing : snapshotRoot tree = .null → SnapshotOf tree OrderedMap.empty
  | mapping {entries : List (Scalar × Tree)} {choices : List (Int × String)} :
    snapshotRoot tree = .mapping entries → List.Forall₂ Chooses entries choices →
    SnapshotOf tree (OrderedMap.ofList choices)

/-- A key that is no number at all, or an infinite one. -/
inductive Unsuitable : Scalar → Prop
  | null : Unsuitable .null
  | date (year month day : Nat) : Unsuitable (.date year month day)
  | infinite (negative : Bool) : Unsuitable (.float (.infinite negative))

/-- An entry that the reader of snapshots neither takes nor reports: its key is unsuitable, or it
has an index, its label is no text, and one of the two is too long to be shown. -/
inductive ChoiceEscapes : Scalar × Tree → Prop
  | index {key : Scalar} {label : Tree} : Unsuitable key → ChoiceEscapes (key, label)
  | label {key : Scalar} {index : Int} {label : Tree} :
    key.toInt = .ok index → (∀ text, label ≠ .text text) →
    (Numeral.writable index && label.writable) = false → ChoiceEscapes (key, label)

/-- The first entry without a reading is not reported. -/
def SnapshotEscapes (tree : Tree) : Prop :=
  ∃ before e after, snapshotRoot tree = .mapping (before ++ e :: after) ∧
    (∀ e ∈ before, ∃ choice, Chooses e choice) ∧ ChoiceEscapes e

theorem readChoice_eq_ok_iff {e : Scalar × Tree} {choice : Int × String} :
    readChoice e = .ok choice ↔ Chooses e choice := by
  obtain ⟨key, label⟩ := e
  constructor
  · intro read
    obtain ⟨index, known, rest⟩ := bind_eq_ok.1 read
    have number : key.toInt = .ok index := mapError_eq_ok.1 known
    split at rest
    · rename_i text shape
      cases rest
      cases (shape : label = .text text)
      exact .entry number
    · split at rest <;> cases rest
  · rintro ⟨number⟩
    exact bind_eq_ok.2 ⟨_, mapError_eq_ok.2 number, rfl⟩

theorem isValue_of_read {text : String} {fault : NumberFault}
    (refused : Numeral.read text = .error fault) : fault.isValue = true := by
  simp only [Numeral.read] at refused
  split at refused
  · cases refused
    rfl
  · split at refused
    · rename_i long
      unfold Numeral.ofDigits at long
      split at long <;> cases long
      cases refused
      rfl
    · split at refused <;> cases refused
      rfl

theorem isValue_eq_false_iff {key : Scalar} {fault : NumberFault}
    (refused : key.toInt = .error fault) : fault.isValue = false ↔ Unsuitable key := by
  cases key with
  | null =>
    cases refused
    exact iff_of_true rfl .null
  | bool _ => cases refused
  | int _ => cases refused
  | float x =>
    cases x with
    | finite _ _ _ => cases refused
    | infinite negative =>
      cases refused
      exact iff_of_true rfl (.infinite negative)
    | nan =>
      cases refused
      exact iff_of_false (by decide) nofun
  | text s => exact iff_of_false (by simp [isValue_of_read refused]) nofun
  | date year month day =>
    cases refused
    exact iff_of_true rfl (.date year month day)

theorem exists_fault_of_unsuitable {key : Scalar} (unsuitable : Unsuitable key) :
    ∃ fault, key.toInt = .error fault := by
  cases unsuitable <;> exact ⟨_, rfl⟩

theorem readChoice_unreported_iff {e : Scalar × Tree} :
    (∃ fault, readChoice e = .error fault ∧ fault.failure? = none) ↔ ChoiceEscapes e := by
  obtain ⟨key, label⟩ := e
  constructor
  · rintro ⟨fault, refused, silent⟩
    rcases bind_eq_error.1 refused with early | ⟨index, known, late⟩
    · obtain ⟨cause, number, rfl⟩ := mapError_eq_error.1 early
      cases value : cause.isValue with
      | true => simp [value, SnapshotFault.failure?] at silent
      | false => exact .index ((isValue_eq_false_iff number).1 value)
    · have number : key.toInt = .ok index := mapError_eq_ok.1 known
      split at late
      · cases late
      · rename_i other
        split at late
        · cases late
          cases silent
        · rename_i long
          exact .label number other (by simpa using long)
  · intro escapes
    cases escapes with
    | index unsuitable =>
      obtain ⟨fault, number⟩ := exists_fault_of_unsuitable unsuitable
      have value := (isValue_eq_false_iff number).2 unsuitable
      refine ⟨_, bind_eq_error.2 (.inl (mapError_eq_error.2 ⟨fault, number, rfl⟩)), ?_⟩
      simp [value, SnapshotFault.failure?]
    | label number other long =>
      refine ⟨.unwritable, bind_eq_error.2 (.inr ⟨_, mapError_eq_ok.2 number, ?_⟩), rfl⟩
      split
      · rename_i text shape
        exact absurd shape (other text)
      · rw [if_neg (by simpa using long)]
        rfl

theorem readSnapshot_eq_ok_iff {tree : Tree} {s : Snapshot} :
    readSnapshot tree = .ok s ↔ SnapshotOf tree s := by
  constructor
  · intro read
    unfold readSnapshot at read
    split at read
    · rename_i root
      cases read
      exact .nothing root
    · rename_i entries root
      obtain ⟨choices, each, rfl⟩ := map_eq_ok.1 read
      simp only [mapM_eq_ok_iff, readChoice_eq_ok_iff] at each
      exact .mapping root each
    · cases read
  · rintro (root | ⟨root, each⟩)
    · rw [readSnapshot, root]
    · have read := mapM_eq_ok_iff.2 (each.imp fun _ _ => readChoice_eq_ok_iff.2)
      rw [readSnapshot, root]
      exact map_eq_ok.2 ⟨_, read, rfl⟩

theorem readSnapshot_unreported_iff {tree : Tree} :
    (∃ fault, readSnapshot tree = .error fault ∧ fault.failure? = none) ↔
      SnapshotEscapes tree := by
  simp only [SnapshotEscapes, ← readChoice_eq_ok_iff, ← readChoice_unreported_iff]
  constructor
  · rintro ⟨fault, refused, silent⟩
    unfold readSnapshot at refused
    split at refused
    · cases refused
    · rename_i entries root
      obtain ⟨before, e, after, rfl, passed, stopped⟩ :=
        mapM_eq_error_iff.1 (map_eq_error.1 refused)
      exact ⟨before, e, after, root, passed, fault, stopped, silent⟩
    · cases refused
      cases silent
  · rintro ⟨before, e, after, root, passed, fault, refused, silent⟩
    refine ⟨fault, ?_, silent⟩
    rw [readSnapshot, root]
    exact map_eq_error.2 (mapM_eq_error_iff.2 ⟨before, e, after, rfl, passed, refused⟩)

/-- The value under a key, as text. -/
inductive Written (entries : List (Scalar × Tree)) (key : String) : String → Prop
  | value {value : Tree} : Tree.lookup entries key = some value → value.writable = true →
    Written entries key value.plain

/-- A mapping with the names of an assignment; its direction may be in any case. -/
inductive Asks : Tree → Assignment → Prop
  | entry {entries : List (Scalar × Tree)} {signal pin name : String} {direction : Direction} :
    Written entries "signal" signal → Written entries "pin" pin →
    Written entries "direction" name → Text.lowercase name = direction.name →
    Asks (.mapping entries) ⟨signal, pin, direction⟩

inductive AssignmentsOf (tree : Tree) : List Assignment → Prop
  | nothing : assignmentsRoot tree = .null → AssignmentsOf tree []
  | list {items : List Tree} {assignments : List Assignment} :
    assignmentsRoot tree = .list items → List.Forall₂ Asks items assignments →
    AssignmentsOf tree assignments

/-- The first entry without a reading is no mapping. -/
def AssignmentsEscape (tree : Tree) : Prop :=
  ∃ before entry after, assignmentsRoot tree = .list (before ++ entry :: after) ∧
    (∀ entry ∈ before, ∃ a, Asks entry a) ∧ ∀ entries, entry ≠ .mapping entries

theorem readPart_eq_ok_iff {entries : List (Scalar × Tree)} {key text : String} :
    readPart (.mapping entries) key = .ok text ↔ Written entries key text := by
  constructor
  · intro read
    simp only [readPart] at read
    split at read
    · rename_i value found
      split at read
      · rename_i short
        cases read
        exact .value found short
      · cases read
    · cases read
  · rintro ⟨found, short⟩
    simp [readPart, found, short]

theorem ofName?_eq_some_iff {name : String} {direction : Direction} :
    Direction.ofName? name = some direction ↔ name = direction.name := by
  constructor
  · intro found
    unfold Direction.ofName? at found
    split at found <;> cases found <;> rfl
  · rintro rfl
    exact direction.ofName?_name

theorem ofNames_eq_ok_iff {signal pin name : String} {a : Assignment} :
    Assignment.ofNames signal pin name = .ok a ↔
      ∃ direction : Direction, name = direction.name ∧ ⟨signal, pin, direction⟩ = a := by
  simp only [← ofName?_eq_some_iff, Assignment.ofNames]
  cases Direction.ofName? name <;> simp

theorem readAssignment_eq_ok_iff {entry : Tree} {a : Assignment} :
    readAssignment entry = .ok a ↔ Asks entry a := by
  constructor
  · intro read
    simp only [readAssignment, bind_eq_ok, mapError_eq_ok, ofNames_eq_ok_iff] at read
    obtain ⟨signal, first, pin, second, name, third, direction, named, rfl⟩ := read
    cases entry with
    | scalar _ => cases first
    | list _ => cases first
    | mapping entries =>
      exact .entry (readPart_eq_ok_iff.1 first) (readPart_eq_ok_iff.1 second)
        (readPart_eq_ok_iff.1 third) named
  · rintro ⟨first, second, third, named⟩
    simp only [readAssignment, bind_eq_ok, mapError_eq_ok, ofNames_eq_ok_iff, readPart_eq_ok_iff]
    exact ⟨_, first, _, second, _, third, _, named, rfl⟩

theorem readPart_unreported_iff {entry : Tree} (key : String) :
    (∃ fault, readPart entry key = .error fault ∧ fault.failure? = none) ↔
      ∀ entries, entry ≠ .mapping entries := by
  cases entry with
  | scalar _ => exact iff_of_true ⟨_, rfl, rfl⟩ nofun
  | list _ => exact iff_of_true ⟨_, rfl, rfl⟩ nofun
  | mapping entries =>
    refine iff_of_false ?_ fun other => other entries rfl
    rintro ⟨fault, refused, silent⟩
    simp only [readPart] at refused
    split at refused
    · split at refused
      · cases refused
      · cases refused
        cases silent
    · cases refused
      cases silent

theorem readAssignment_unreported_iff {entry : Tree} :
    (∃ fault, readAssignment entry = .error fault ∧ fault.failure? = none) ↔
      ∀ entries, entry ≠ .mapping entries := by
  constructor
  · rintro ⟨fault, refused, silent⟩
    simp only [readAssignment, bind_eq_error] at refused
    rcases refused with first | ⟨_, _, second | ⟨_, _, third | ⟨_, _, last⟩⟩⟩
    · exact (readPart_unreported_iff _).1 ⟨fault, first, silent⟩
    · exact (readPart_unreported_iff _).1 ⟨fault, second, silent⟩
    · exact (readPart_unreported_iff _).1 ⟨fault, third, silent⟩
    · obtain ⟨_, _, rfl⟩ := mapError_eq_error.1 last
      cases silent
  · intro other
    -- The first part to be read already tells that the entry is no mapping.
    obtain ⟨fault, refused, silent⟩ := (readPart_unreported_iff "signal").2 other
    exact ⟨fault, bind_eq_error.2 (.inl refused), silent⟩

theorem readAssignments_eq_ok_iff {tree : Tree} {assignments : List Assignment} :
    readAssignments tree = .ok assignments ↔ AssignmentsOf tree assignments := by
  constructor
  · intro read
    unfold readAssignments at read
    split at read
    · rename_i root
      cases read
      exact .nothing root
    · rename_i items root
      simp only [mapM_eq_ok_iff, readAssignment_eq_ok_iff] at read
      exact .list root read
    · cases read
  · rintro (root | ⟨root, each⟩)
    · rw [readAssignments, root]
    · have read := mapM_eq_ok_iff.2 (each.imp fun _ _ => readAssignment_eq_ok_iff.2)
      rw [readAssignments, root]
      exact read

theorem readAssignments_unreported_iff {tree : Tree} :
    (∃ fault, readAssignments tree = .error fault ∧ fault.failure? = none) ↔
      AssignmentsEscape tree := by
  simp only [AssignmentsEscape, ← readAssignment_eq_ok_iff, ← readAssignment_unreported_iff]
  constructor
  · rintro ⟨fault, refused, silent⟩
    unfold readAssignments at refused
    split at refused
    · cases refused
    · rename_i items root
      obtain ⟨before, entry, after, rfl, passed, stopped⟩ := mapM_eq_error_iff.1 refused
      exact ⟨before, entry, after, root, passed, fault, stopped, silent⟩
    · cases refused
      cases silent
  · rintro ⟨before, entry, after, root, passed, fault, refused, silent⟩
    refine ⟨fault, ?_, silent⟩
    rw [readAssignments, root]
    exact mapM_eq_error_iff.2 ⟨before, entry, after, rfl, passed, refused⟩

end ConfigWords.Interchange
