import ConfigWords.Description.Access
import ConfigWords.Proofs.Outcome

/-! The steps of a reading.
A reading goes through a tree in a fixed order and stops at the first value that does not suit it.
Most such stops are faults of the description. Here a reading is followed as far as it matters which
numbers stop it: those that cannot be read and those that cannot be written out. -/
namespace ConfigWords.Description

/-- One step of a reading: what it needs, and the number faults that it stops with. -/
structure Step where
  passed : Prop
  stopped : NumberFault → Prop

namespace Step

/-- The steps one after another; the first that is not passed decides. -/
def all : List Step → Step
  | [] => ⟨True, fun _ => False⟩
  | s :: rest =>
    ⟨s.passed ∧ (all rest).passed, fun n => s.stopped n ∨ s.passed ∧ (all rest).stopped n⟩

def check (needs : Prop) : Step := ⟨needs, fun _ => False⟩

/-- A value is read as a whole number. Null, dates, lists and mappings are of the wrong shape. -/
def number (value : Tree) : Step :=
  ⟨∃ i, value.toInt = .ok i, fun n => value.toInt = .error n ∧ n ≠ .unsuitable⟩

def text (value : Tree) : Step :=
  ⟨value.writable = true, fun n => value.writable = false ∧ n = .unwritable⟩

def under (tree : Tree) (key : String) (step : Tree → Step) : Step :=
  match tree with
  | .mapping entries =>
    match Tree.lookup entries key with
    | some value => step value
    | none => check False
  | .scalar _ | .list _ => check False

/-- The value under a key, if it is there; a default is always passed. -/
def underIf (tree : Tree) (key : String) (step : Tree → Step) : Step :=
  match tree with
  | .mapping entries =>
    match Tree.lookup entries key with
    | some value => step value
    | none => all []
  | .scalar _ | .list _ => check False

def entries (tree : Tree) (step : Scalar × Tree → Step) : Step :=
  match tree with
  | .mapping entries => all (entries.map step)
  | .scalar _ | .list _ => check False

def items (tree : Tree) (step : Tree → Step) : Step :=
  match tree.items with
  | .ok items => all (items.map step)
  | .error _ => check False

/-- A step that uses what has been read before. -/
def given {α : Type} (read : Except DescriptionFault α) (step : α → Step) : Step :=
  ⟨∃ a, read = .ok a ∧ (step a).passed, fun n => ∃ a, read = .ok a ∧ (step a).stopped n⟩

end Step

variable {α β γ : Type} {x : Except DescriptionFault α} {s : Step} {steps : List Step}

def StopsAt (n : NumberFault) (x : Except DescriptionFault α) (s : Step) : Prop :=
  x = .error (.number n) ↔ s.stopped n

/-- A reading succeeds when its steps are passed and stops with a number where they do. -/
structure Follows (x : Except DescriptionFault α) (s : Step) : Prop where
  passed : (∃ a, x = .ok a) ↔ s.passed
  stopped : ∀ n, StopsAt n x s

theorem follows_ok_iff {a : α} :
    Follows (.ok a) s ↔ s.passed ∧ ∀ n, ¬ s.stopped n := by
  constructor
  · intro follows
    exact ⟨follows.passed.1 ⟨a, rfl⟩, fun n stop => by cases (follows.stopped n).2 stop⟩
  · rintro ⟨passed, silent⟩
    exact ⟨iff_of_true ⟨a, rfl⟩ passed, fun n => iff_of_false (by simp) (silent n)⟩

theorem follows_error_iff {fault : DescriptionFault} :
    Follows (.error fault : Except DescriptionFault α) s ↔
      ¬ s.passed ∧ ∀ n, s.stopped n ↔ fault = .number n := by
  constructor
  · intro follows
    refine ⟨fun passed => ?_, fun n => ?_⟩
    · obtain ⟨_, done⟩ := follows.passed.2 passed
      cases done
    · exact (follows.stopped n).symm.trans (by rw [Except.error.injEq])
  · rintro ⟨failed, stops⟩
    refine ⟨iff_of_false (by simp) failed, fun n => ?_⟩
    rw [StopsAt, Except.error.injEq, stops]

theorem follows_pure (a : α) : Follows (pure a) (.all []) :=
  follows_ok_iff.2 ⟨trivial, fun _ => id⟩

theorem Follows.single (follows : Follows x s) : Follows x (.all [s]) := by
  constructor
  · simp [Step.all, follows.passed]
  · exact fun n => (follows.stopped n).trans (by simp [Step.all])

theorem Follows.seq_stopsAt {f : α → Except DescriptionFault β} {n : NumberFault}
    (first : Follows x s) (later : ∀ a, x = .ok a → StopsAt n (f a) (.all steps)) :
    StopsAt n (x >>= f) (.all (s :: steps)) := by
  cases x with
  | error fault =>
    obtain ⟨failed, stops⟩ := follows_error_iff.1 first
    have here : (.error fault >>= f) = (.error fault : Except DescriptionFault β) := rfl
    simp [StopsAt, Step.all, here, failed, stops]
  | ok a =>
    obtain ⟨passed, silent⟩ := follows_ok_iff.1 first
    exact (later a rfl).trans (by simp [Step.all, passed, silent])

theorem Follows.seq {f : α → Except DescriptionFault β} (first : Follows x s)
    (later : ∀ a, x = .ok a → Follows (f a) (.all steps)) :
    Follows (x >>= f) (.all (s :: steps)) := by
  refine ⟨?_, fun n => first.seq_stopsAt fun a read => (later a read).stopped n⟩
  simp only [bind_eq_ok, Step.all, ← first.passed]
  constructor
  · rintro ⟨b, a, read, done⟩
    exact ⟨⟨a, read⟩, (later a read).passed.1 ⟨b, done⟩⟩
  · rintro ⟨⟨a, read⟩, passed⟩
    obtain ⟨b, done⟩ := (later a read).passed.2 passed
    exact ⟨b, a, read, done⟩

theorem Follows.skip {a : α} {y : Except DescriptionFault β} (first : Follows (.ok a) s)
    (later : Follows y (.all steps)) : Follows y (.all (s :: steps)) :=
  first.seq (f := fun _ => y) fun _ _ => later

theorem Follows.stop {fault : DescriptionFault}
    (first : Follows (.error fault : Except DescriptionFault α) s) :
    Follows (.error fault : Except DescriptionFault α) (.all (s :: steps)) :=
  first.seq (f := fun _ => .error fault) fun _ done => by cases done

theorem Follows.assoc {g : α → Except DescriptionFault β} {f : β → Except DescriptionFault γ}
    (follows : Follows ((x >>= g) >>= f) s) : Follows (x >>= fun a => g a >>= f) s := by
  rwa [bind_assoc] at follows

theorem Follows.map (g : α → β) (follows : Follows x s) :
    Follows (x >>= fun a => pure (g a)) s := by
  cases x with
  | error fault => exact follows_error_iff.2 (follows_error_iff.1 follows)
  | ok a => exact follows_ok_iff.2 (follows_ok_iff.1 follows)

theorem Follows.given {y : Except DescriptionFault β} {step : α → Step} {a : α} (read : x = .ok a)
    (follows : Follows y (step a)) : Follows y (.given x step) := by
  subst read
  constructor
  · simp [Step.given, follows.passed]
  · exact fun n => (follows.stopped n).trans (by simp [Step.given])

theorem follows_mapM {f : α → Except DescriptionFault β} {step : α → Step} (xs : List α)
    (each : ∀ x, Follows (f x) (step x)) : Follows (xs.mapM f) (.all (xs.map step)) := by
  induction xs with
  | nil => exact follows_pure []
  | cons x rest ih =>
    rw [List.mapM_cons, List.map_cons]
    exact (each x).seq fun _ _ => ih.map _

theorem ne_number_of_reported {fault : DescriptionFault} (reported : fault.failure?.isSome = true)
    (n : NumberFault) : fault ≠ .number n := by
  rintro rfl
  cases reported

theorem follows_refused {fault : DescriptionFault} {needs : Prop} (unmet : ¬ needs)
    (reported : fault.failure?.isSome = true) :
    Follows (.error fault : Except DescriptionFault α) (.check needs) :=
  follows_error_iff.2 ⟨unmet, fun n => iff_of_false id (ne_number_of_reported reported n)⟩

theorem follows_integer (value : Tree) : Follows value.integer (.number value) := by
  unfold Tree.integer Step.number
  cases value.toInt with
  | ok i => exact follows_ok_iff.2 ⟨⟨i, rfl⟩, fun n => by simp⟩
  | error fault =>
    refine follows_error_iff.2 ⟨by simp, fun n => ?_⟩
    cases fault <;> simp [Tree.numberFault] <;> rintro rfl <;> simp

theorem follows_written (value : Tree) : Follows value.written (.text value) := by
  unfold Tree.written Step.text
  cases value.writable with
  | true => exact follows_ok_iff.2 ⟨rfl, fun n => by simp⟩
  | false => exact follows_error_iff.2 ⟨by simp, fun n => by simp [eq_comm]⟩

theorem follows_entries {f : Scalar × Tree → Except DescriptionFault β}
    {step : Scalar × Tree → Step} (tree : Tree) (each : ∀ e, Follows (f e) (step e)) :
    Follows (tree.entries >>= fun entries => entries.mapM f) (.entries tree step) := by
  cases tree with
  | mapping entries => exact follows_mapM entries each
  | scalar _ => exact follows_refused id rfl
  | list _ => exact follows_refused id rfl

theorem follows_items {f : Tree → Except DescriptionFault β} {step : Tree → Step} (tree : Tree)
    (each : ∀ item, Follows (f item) (step item)) :
    Follows (tree.items >>= fun items => items.mapM f) (.items tree step) := by
  cases reach : tree.items with
  | ok items =>
    unfold Step.items
    rw [reach]
    exact follows_mapM items each
  | error fault =>
    unfold Step.items
    rw [reach]
    unfold Tree.items at reach
    split at reach <;> cases reach
    exact follows_refused id rfl

theorem follows_required {f : Tree → Except DescriptionFault β} {step : Tree → Step} (tree : Tree)
    (key : String) (each : ∀ value, Follows (f value) (step value)) :
    Follows (tree.required key >>= f) (.under tree key step) := by
  cases tree with
  | mapping entries =>
    simp only [Tree.required, Tree.entries, Step.under, bind, Except.bind]
    cases Tree.lookup entries key with
    | some value => exact each value
    | none => exact follows_refused id rfl
  | scalar _ => exact follows_refused id rfl
  | list _ => exact follows_refused id rfl

theorem follows_optional {f : Tree → Except DescriptionFault β} {step : Tree → Step} (tree : Tree)
    (key : String) {default : Tree} (each : ∀ value, Follows (f value) (step value))
    (usual : Follows (f default) (.all [])) :
    Follows (tree.optional key default >>= f) (.underIf tree key step) := by
  cases tree with
  | mapping entries =>
    simp only [Tree.optional, Tree.entries, Step.underIf, bind, Except.bind, pure, Except.pure]
    cases Tree.lookup entries key with
    | some value => exact each value
    | none => exact usual
  | scalar _ => exact follows_refused id rfl
  | list _ => exact follows_refused id rfl

theorem follows_requiredInt (tree : Tree) (key : String) :
    Follows (tree.requiredInt key) (.under tree key .number) :=
  follows_required tree key follows_integer

theorem follows_requiredText (tree : Tree) (key : String) :
    Follows (tree.requiredText key) (.under tree key .text) :=
  follows_required tree key follows_written

theorem follows_optionalInt (tree : Tree) (key : String) (default : Int) :
    Follows (tree.optionalInt key default) (.underIf tree key .number) :=
  follows_optional tree key follows_integer (follows_pure default)

theorem follows_optionalText (tree : Tree) (key default : String) :
    Follows (tree.optionalText key default) (.underIf tree key .text) :=
  follows_optional tree key follows_written (follows_pure default)

/-! One fault at a time. The end of a reading that cannot stop with the fault needs no steps. -/

variable {n : NumberFault}

theorem StopsAt.single (stops : StopsAt n x s) : StopsAt n x (.all [s]) := by
  simpa [StopsAt, Step.all] using stops

theorem StopsAt.assoc {g : α → Except DescriptionFault β} {f : β → Except DescriptionFault γ}
    (stops : StopsAt n ((x >>= g) >>= f) s) : StopsAt n (x >>= fun a => g a >>= f) s := by
  rwa [bind_assoc] at stops

def Quiet (n : NumberFault) (x : Except DescriptionFault α) : Prop := x ≠ .error (.number n)

theorem StopsAt.quiet {f : α → Except DescriptionFault β} (stops : StopsAt n x s)
    (later : ∀ a, Quiet n (f a)) : StopsAt n (x >>= f) s := by
  refine Iff.trans ?_ stops
  rw [bind_eq_error]
  exact or_iff_left fun ⟨a, _, stop⟩ => later a stop

theorem stopsAt_refused {fault : DescriptionFault} (reported : fault.failure?.isSome = true) :
    StopsAt n (.error fault : Except DescriptionFault α) (.check False) :=
  (follows_refused id reported).stopped n

theorem stopsAt_required {f : Tree → Except DescriptionFault β} {step : Tree → Step} (tree : Tree)
    (key : String) (each : ∀ value, StopsAt n (f value) (step value)) :
    StopsAt n (tree.required key >>= f) (.under tree key step) := by
  cases tree with
  | mapping entries =>
    simp only [Tree.required, Tree.entries, Step.under, bind, Except.bind]
    cases Tree.lookup entries key with
    | some value => exact each value
    | none => exact stopsAt_refused rfl
  | scalar _ => exact stopsAt_refused rfl
  | list _ => exact stopsAt_refused rfl

end ConfigWords.Description
