import ConfigWords.Proofs.Pins.ReadBack
import ConfigWords.Proofs.Render.SetupReading

/-! First claims written out.
The set-up function looks for the first claim on each register anew, among the inputs and then among
the outputs. Where no input shares its register with an output, it finds the selectors of the
routing. -/
namespace ConfigWords.Render

theorem mem_of_mem_winners {items : List Resolved} {x : Resolved} (member : x ∈ winners items) :
    x ∈ items := by
  induction items with
  | nil => exact member
  | cons y rest ih =>
    rcases List.mem_cons.1 member with rfl | later
    · exact List.mem_cons_self
    · exact List.mem_cons_of_mem y (ih (List.mem_filter.1 later).1)

theorem filter_left_out (p : String → Bool) {register : String} (fails : p register = false)
    (items : List Resolved) :
    (items.filter fun y => y.register != register).filter (fun y => p y.register) =
      items.filter fun y => p y.register := by
  rw [List.filter_filter]
  apply List.filter_congr
  intro y _
  by_cases same : y.register = register
  · simp [same, fails]
  · simp [same]

/-- A condition on registers may be put before the search for first claims or after it. -/
theorem winners_filter (p : String → Bool) (items : List Resolved) :
    winners (items.filter fun x => p x.register) =
      (winners items).filter fun x => p x.register := by
  induction items with
  | nil => rfl
  | cons x rest ih =>
    cases passes : p x.register with
    | true => simp only [winners, List.filter_cons, passes, if_true, ih, List.filter_comm]
    | false =>
      -- The later claims on the register fail the condition as this one does.
      simp only [winners, List.filter_cons, passes, Bool.false_eq_true, if_false, ih,
        filter_left_out p passes]

theorem entries_settle (settled : OrderedMap String Int) (items : List Resolved) :
    (items.foldl (fun m x => if m.contains x.register then m
      else m.insert x.register x.selector) settled).entries =
        settled.entries ++
          ((winners items).filter fun x => !settled.contains x.register).map writeOf := by
  induction items generalizing settled with
  | nil => simp [winners]
  | cons x rest ih =>
    rw [List.foldl_cons, ih, winners]
    cases claimed : settled.contains x.register with
    | true =>
      have fails : (!settled.contains x.register) = false := by simp [claimed]
      simp only [if_true, List.filter_cons, fails, Bool.false_eq_true, if_false,
        filter_left_out (fun register => !settled.contains register) fails]
    | false =>
      have taken (register : String) : (settled.insert x.register x.selector).contains register =
          (register == x.register || settled.contains register) := by
        rw [OrderedMap.contains_eq_isSome, OrderedMap.contains_eq_isSome, OrderedMap.get?_insert]
        by_cases same : x.register = register
        · simp [same]
        · simp [same, Ne.symm same]
      have free : ((winners rest).filter fun y =>
          !(settled.insert x.register x.selector).contains y.register) =
            ((winners rest).filter fun y => y.register != x.register).filter
              fun y => !settled.contains y.register := by
        rw [List.filter_filter]
        apply List.filter_congr
        intro y _
        rw [taken, Bool.not_or, Bool.and_comm]
        rfl
      simp only [Bool.false_eq_true, if_false, List.filter_cons, claimed, Bool.not_false, if_true,
        OrderedMap.entries_insert_of_fresh claimed, free, List.map_cons, List.append_assoc,
        List.singleton_append]
      rfl

theorem entries_firstSelectors (items : List Resolved) :
    (Routing.firstSelectors items).entries = (winners items).map writeOf := by
  rw [Routing.firstSelectors, entries_settle]
  simp [OrderedMap.empty, OrderedMap.contains]

end ConfigWords.Render

namespace ConfigWords.PinTables

open Render

def inputRegisters (t : PinTables) : List String := t.inputs.values.map (·.register)

def outputRegisters (t : PinTables) : List String := t.outputs.values.map (·.register)

/-- No input signal shares its register with an output pin. -/
def Apart (t : PinTables) : Prop := ∀ register ∈ t.inputRegisters, register ∉ t.outputRegisters

/-- Selectors by register: those of the input signals, and behind them those of the output pins. -/
def inputsFirst (t : PinTables) (selectors : OrderedMap String Int) : List (String × Int) :=
  (selectors.entries.filter fun e => t.inputRegisters.contains e.1) ++
    selectors.entries.filter fun e => t.outputRegisters.contains e.1

variable {t : PinTables} {assignments : List Assignment} {package : Option Int} {x : Resolved}

theorem ReadsBack.register_mem (reads : t.ReadsBack x) :
    x.assignment.direction = .input ∧ x.register ∈ t.inputRegisters ∨
      x.assignment.direction = .output ∧ x.register ∈ t.outputRegisters := by
  cases reads with
  | input direction known register =>
    exact .inl ⟨direction, register ▸ List.mem_map_of_mem
      (List.mem_map_of_mem (OrderedMap.get?_eq_some_iff.1 known))⟩
  | output direction known register =>
    exact .inr ⟨direction, register ▸ List.mem_map_of_mem
      (List.mem_map_of_mem (OrderedMap.get?_eq_some_iff.1 known))⟩

section Apart

variable (apart : t.Apart) (sound : t.Sound)

include apart sound

theorem Apart.contains_eq (member : x ∈ (t.route assignments package).resolved) :
    t.inputRegisters.contains x.register = (x.assignment.direction == .input) ∧
      t.outputRegisters.contains x.register = (x.assignment.direction == .output) := by
  rcases (sound.readsBack_of_route member).2.register_mem with
    ⟨direction, register⟩ | ⟨direction, register⟩
  · have other := apart x.register register
    simp [direction, register, other]
  · have other : x.register ∉ t.inputRegisters := fun input => apart _ input register
    simp [direction, register, other]

/-- The first claims of the inputs and of the outputs are the selectors of the routing. -/
theorem Apart.map_winners :
    (winners (t.route assignments package).inputs ++
      winners (t.route assignments package).outputs).map writeOf =
        t.inputsFirst (t.route assignments package).selectors := by
  have inputs : (t.route assignments package).inputs =
      (t.route assignments package).resolved.filter fun x =>
        t.inputRegisters.contains x.register :=
    List.filter_congr fun x member => (apart.contains_eq sound member).1.symm
  have outputs : (t.route assignments package).outputs =
      (t.route assignments package).resolved.filter fun x =>
        t.outputRegisters.contains x.register :=
    List.filter_congr fun x member => (apart.contains_eq sound member).2.symm
  have entries : (t.route assignments package).selectors.entries =
      (winners (t.route assignments package).resolved).map writeOf := entries_firstSelectors _
  rw [inputs, outputs, winners_filter fun register => t.inputRegisters.contains register,
    winners_filter fun register => t.outputRegisters.contains register, List.map_append,
    inputsFirst, entries, List.filter_map, List.filter_map]
  rfl

theorem Apart.perm_inputsFirst :
    (t.inputsFirst (t.route assignments package).selectors).Perm
      (t.route assignments package).selectors.entries := by
  have others : ((t.route assignments package).selectors.entries.filter fun e =>
      t.outputRegisters.contains e.1) =
        (t.route assignments package).selectors.entries.filter fun e =>
          !t.inputRegisters.contains e.1 := by
    apply List.filter_congr
    intro e member
    have written : e ∈ (winners (t.route assignments package).resolved).map writeOf :=
      entries_firstSelectors _ ▸ member
    obtain ⟨x, first, rfl⟩ := List.mem_map.1 written
    obtain ⟨input, output⟩ := apart.contains_eq sound (mem_of_mem_winners first)
    rw [writeOf, input, output]
    cases x.assignment.direction with
    | input => rfl
    | output => rfl
  rw [inputsFirst, others]
  exact List.filter_append_perm _ _

end Apart
end ConfigWords.PinTables
