import ConfigWords.CommandLine.Run
import ConfigWords.Proofs.Outcome

/-! How a session can end.
Notes leave the output alone and a session never takes back what it has written. So how the whole
ends, and whether something has been written by then, is put together from its parts in order. -/
namespace ConfigWords.CommandLine

variable {α β : Type}

def Completes (x : Session Unit) : Prop := ∀ t, ∃ next, x.run.run t = (.ok (), next)

/-- Comes to its end and writes nothing. -/
def Quiet (x : Session Unit) : Prop :=
  ∀ t, ∃ next, x.run.run t = (.ok (), next) ∧ next.output = t.output

/-- Stops with a report and writes nothing. -/
def Refuses (x : Session α) : Prop :=
  ∀ t, ∃ text next, x.run.run t = (.error (.reported text), next) ∧ next.output = t.output

/-- Stops without a report, with or without having written something. -/
def Crashes (x : Session α) (written : Bool) : Prop :=
  ∀ t, ∃ fault next more, x.run.run t = (.error (.crash fault), next) ∧
    next.output = t.output ++ more ∧ (more ≠ "" ↔ written = true)

theorem attempt_ok {ε : Type} {ending : ε → Ending} {a : α} : attempt ending (.ok a) = pure a := rfl

theorem attempt_error {ε : Type} {ending : ε → Ending} {fault : ε} :
    (attempt ending (.error fault) : Session α) = throw (ending fault) := rfl

theorem throw_bind (ending : Ending) (f : α → Session β) :
    ((throw ending : Session α) >>= f) = throw ending := rfl

theorem quiet_note (n : Note) : Quiet (note n) := fun _ => ⟨_, rfl, rfl⟩

theorem completes_write (text : String) : Completes (write text) := fun _ => ⟨_, rfl⟩

theorem refuses_throw (text : String) : Refuses (throw (.reported text) : Session α) :=
  fun _ => ⟨_, _, rfl, rfl⟩

theorem crashes_throw (fault : Crash) : Crashes (throw (.crash fault) : Session α) false :=
  fun t => ⟨fault, t, "", rfl, by simp, by simp⟩

theorem Refuses.bind {x : Session α} {f : α → Session β} (stops : Refuses x) :
    Refuses (x >>= f) := by
  intro t
  obtain ⟨text, next, first, output⟩ := stops t
  exact ⟨text, next, run_bind_of_error first, output⟩

theorem Crashes.bind {x : Session α} {f : α → Session β} {written : Bool}
    (stops : Crashes x written) : Crashes (x >>= f) written := by
  intro t
  obtain ⟨fault, next, more, first, output, amount⟩ := stops t
  exact ⟨fault, next, more, run_bind_of_error first, output, amount⟩

section Sequence

variable {x : Session Unit} {y : Session Unit}

theorem Quiet.run_bind (quiet : Quiet x) (t : Transcript) :
    ∃ middle, middle.output = t.output ∧
      (x >>= fun _ => y).run.run t = y.run.run middle := by
  obtain ⟨middle, ended, same⟩ := quiet t
  exact ⟨middle, same, run_bind_of_ok ended⟩

theorem Quiet.completes (quiet : Quiet x) (later : Completes y) :
    Completes (x >>= fun _ => y) := by
  intro t
  obtain ⟨middle, _, first⟩ := quiet.run_bind (y := y) t
  obtain ⟨next, second⟩ := later middle
  exact ⟨next, first.trans second⟩

theorem Quiet.quiet (quiet : Quiet x) (later : Quiet y) : Quiet (x >>= fun _ => y) := by
  intro t
  obtain ⟨middle, same, first⟩ := quiet.run_bind (y := y) t
  obtain ⟨next, second, still⟩ := later middle
  exact ⟨next, first.trans second, still.trans same⟩

theorem Quiet.refuses (quiet : Quiet x) (later : Refuses y) : Refuses (x >>= fun _ => y) := by
  intro t
  obtain ⟨middle, same, first⟩ := quiet.run_bind (y := y) t
  obtain ⟨text, next, second, still⟩ := later middle
  exact ⟨text, next, first.trans second, still.trans same⟩

theorem Quiet.crashes {written : Bool} (quiet : Quiet x) (later : Crashes y written) :
    Crashes (x >>= fun _ => y) written := by
  intro t
  obtain ⟨middle, same, first⟩ := quiet.run_bind (y := y) t
  obtain ⟨fault, next, more, second, output, amount⟩ := later middle
  exact ⟨fault, next, more, first.trans second, same ▸ output, amount⟩

theorem completes_write_bind (text : String) (later : Completes y) :
    Completes (write text >>= fun _ => y) := by
  intro t
  obtain ⟨next, second⟩ := later { t with output := t.output ++ text }
  exact ⟨next, second⟩

theorem crashes_write_bind {text : String} {written : Bool} (some : text ≠ "")
    (later : Crashes y written) : Crashes (write text >>= fun _ => y) true := by
  intro t
  obtain ⟨fault, next, more, second, output, _⟩ := later { t with output := t.output ++ text }
  refine ⟨fault, next, text ++ more, second, by rw [output, String.append_assoc], ?_⟩
  simp [some]

end Sequence

theorem quiet_notes (notes : List Note) : Quiet (notes.forM note) := by
  induction notes with
  | nil => exact fun t => ⟨t, rfl, rfl⟩
  | cons n rest ih => exact (quiet_note n).quiet ih

theorem quiet_warn {problem : Diagnostic} (writable : problem.writable = true) :
    Quiet (warn problem) := by
  rw [warn, if_pos writable]
  exact quiet_note _

theorem quiet_warnings {problems : List Diagnostic}
    (writable : ∀ problem ∈ problems, problem.writable = true) : Quiet (problems.forM warn) := by
  induction problems with
  | nil => exact fun t => ⟨t, rfl, rfl⟩
  | cons problem rest ih =>
    obtain ⟨first, others⟩ := List.forall_mem_cons.1 writable
    exact (quiet_warn first).quiet (ih others)

theorem crashes_warnings {problems : List Diagnostic}
    (unwritable : ∃ problem ∈ problems, problem.writable = false) :
    Crashes (problems.forM warn) false := by
  induction problems with
  | nil => exact absurd unwritable (by simp)
  | cons problem rest ih =>
    -- The warnings before the first that cannot be put in words are noted.
    by_cases first : problem.writable = true
    · obtain ⟨other, member, long⟩ := unwritable
      rcases List.mem_cons.1 member with rfl | later
      · simp [first] at long
      · exact (quiet_warn first).crashes (ih ⟨other, later, long⟩)
    · have stopped : warn problem = throw (.crash (.warning problem)) := if_neg first
      change Crashes (warn problem >>= fun _ => rest.forM warn) false
      rw [stopped, throw_bind]
      exact crashes_throw _

end ConfigWords.CommandLine
