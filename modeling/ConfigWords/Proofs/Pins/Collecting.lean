import ConfigWords.Proofs.OrderedMap
import ConfigWords.Proofs.Pins.Resolving
import ConfigWords.Proofs.Pins.Tables

/-! What becomes of the claims on a register.
Selectors are kept by register, conflicts are found by pin. The first claim on a register is kept,
so a later one with another selector is lost. A lost input is always warned about. A lost output is
reported where another signal claims its pin, which says nothing about other claims on its
register. -/
namespace ConfigWords

namespace Routing

variable {resolved : List Resolved} {x : Resolved}

def firstSelector? (resolved : List Resolved) (register : String) : Option Int :=
  (resolved.find? fun x => x.register == register).map (·.selector)

/-- The selector of a register that is settled, or else the one that the claims settle it with. -/
def selector? (settled : OrderedMap String Int) (resolved : List Resolved) (register : String) :
    Option Int :=
  (settled.get? register).or (firstSelector? resolved register)

theorem selector?_cons_of_settled {settled : OrderedMap String Int} {kept : Int}
    (found : settled.get? x.register = some kept) (register : String) :
    selector? settled (x :: resolved) register = selector? settled resolved register := by
  unfold selector? firstSelector?
  by_cases same : x.register = register
  · rw [same] at found
    simp [found]
  · simp [same]

theorem selector?_cons_of_free {settled : OrderedMap String Int}
    (free : settled.get? x.register = none) (register : String) :
    selector? settled (x :: resolved) register =
      selector? (settled.insert x.register x.selector) resolved register := by
  unfold selector? firstSelector?
  by_cases same : x.register = register
  · rw [same] at free
    simp [OrderedMap.get?_insert, same, free]
  · simp [OrderedMap.get?_insert, same]

theorem get?_settle (settled : OrderedMap String Int) (resolved : List Resolved)
    (register : String) :
    (resolved.foldl (fun m x => if m.contains x.register then m
      else m.insert x.register x.selector) settled).get? register =
        selector? settled resolved register := by
  induction resolved generalizing settled with
  | nil => simp [selector?, firstSelector?]
  | cons x rest ih =>
    rw [List.foldl_cons, ih]
    cases found : settled.get? x.register with
    | none =>
      simp [OrderedMap.contains_eq_isSome, found, selector?_cons_of_free found]
    | some kept =>
      simp [OrderedMap.contains_eq_isSome, found, selector?_cons_of_settled found]

theorem get?_firstSelectors (resolved : List Resolved) (register : String) :
    (firstSelectors resolved).get? register = firstSelector? resolved register :=
  get?_settle OrderedMap.empty resolved register

theorem exists_repeatedInput (settled : OrderedMap String Int) (member : x ∈ resolved)
    (input : x.assignment.direction = .input)
    (lost : selector? settled resolved x.register ≠ some x.selector) :
    ∃ r ∈ repeatedInputs settled resolved, r.signal = x.assignment.signal ∧
      r.register = x.register ∧ selector? settled resolved x.register = some r.kept := by
  induction resolved generalizing settled with
  | nil => cases member
  | cons y rest ih =>
    unfold repeatedInputs
    cases found : settled.get? y.register with
    | some kept =>
      rw [selector?_cons_of_settled found] at lost ⊢
      rcases List.mem_cons.1 member with rfl | later
      · have first : selector? settled rest x.register = some kept := by simp [selector?, found]
        simp only [input, if_true]
        exact ⟨_, .head _, rfl, rfl, first⟩
      · obtain ⟨r, repeated, facts⟩ := ih settled later lost
        by_cases warned : y.assignment.direction = .input
        · simp only [warned, if_true]
          exact ⟨r, .tail _ repeated, facts⟩
        · simp only [warned, if_false]
          exact ⟨r, repeated, facts⟩
    | none =>
      rw [selector?_cons_of_free found] at lost ⊢
      rcases List.mem_cons.1 member with rfl | later
      · exact absurd (by simp [selector?, OrderedMap.get?_insert]) lost
      · exact ih _ later lost

section Conflicts

variable {outputs : List Resolved} {pin : String} {c : PinConflict}

theorem conflictOn_eq_some_iff :
    conflictOn outputs pin = some c ↔
      ∃ first rest, claims outputs pin = first :: rest ∧ c.pin = pin ∧
        c.register = first.register ∧ c.losing ≠ [] ∧
        c.signals = distinct ((claims outputs pin).map (·.assignment.signal)) := by
  unfold conflictOn
  constructor
  · intro found
    split at found
    · rename_i first rest kept other more claimed named
      cases found
      exact ⟨first, rest, claimed, rfl, rfl, by simp, named.symm⟩
    · cases found
  · rintro ⟨first, rest, claimed, rfl, register, contested, named⟩
    obtain ⟨_, _, kept, losing⟩ := c
    obtain ⟨other, more, rfl⟩ := List.exists_cons_of_ne_nil contested
    cases register
    simp only [PinConflict.signals] at named
    rw [← named, claimed]

theorem mem_conflictsOf_iff :
    c ∈ conflictsOf outputs ↔ conflictOn outputs c.pin = some c := by
  simp only [conflictsOf, List.mem_filterMap, mem_distinct, List.mem_map]
  constructor
  · rintro ⟨pin, _, found⟩
    obtain ⟨_, _, _, rfl, _⟩ := conflictOn_eq_some_iff.1 found
    exact found
  · intro found
    obtain ⟨first, rest, claimed, _⟩ := conflictOn_eq_some_iff.1 found
    have member : first ∈ claims outputs c.pin := by simp [claimed]
    obtain ⟨present, same⟩ := List.mem_filter.1 member
    exact ⟨c.pin, ⟨first, present, by simpa using same⟩, found⟩

theorem mem_claims_iff : x ∈ claims outputs pin ↔ x ∈ outputs ∧ x.assignment.pin = pin := by
  simp [claims]

/-- Two signals on one pin are a conflict, and one signal is none. -/
theorem exists_conflict_iff (member : x ∈ outputs) :
    (∃ c ∈ conflictsOf outputs, c.pin = x.assignment.pin ∧ x.assignment.signal ∈ c.signals) ↔
      ∃ y ∈ outputs, y.assignment.pin = x.assignment.pin ∧
        y.assignment.signal ≠ x.assignment.signal := by
  have listed (signal : String) :
      signal ∈ distinct ((claims outputs x.assignment.pin).map (·.assignment.signal)) ↔
        ∃ y ∈ outputs, y.assignment.pin = x.assignment.pin ∧ y.assignment.signal = signal := by
    simp [mem_distinct, mem_claims_iff, and_assoc]
  constructor
  · rintro ⟨c, present, pin, _⟩
    obtain ⟨_, _, _, _, _, contested, named⟩ :=
      conflictOn_eq_some_iff.1 (mem_conflictsOf_iff.1 present)
    rw [pin] at named
    -- The contenders differ from each other, so one of the first two is not the signal.
    have apart : c.signals.Nodup := named ▸ nodup_distinct _
    obtain ⟨other, more, losing⟩ := List.exists_cons_of_ne_nil contested
    rw [PinConflict.signals, losing] at apart named
    have different : c.kept ≠ other := by
      rintro rfl
      simp at apart
    rw [← named] at listed
    by_cases same : c.kept = x.assignment.signal
    · obtain ⟨y, output, shared, signal⟩ := (listed other).1 (by simp)
      exact ⟨y, output, shared, fun again => different (same.trans (again.symm.trans signal))⟩
    · obtain ⟨y, output, shared, signal⟩ := (listed c.kept).1 (by simp)
      exact ⟨y, output, shared, fun again => same (signal.symm.trans again)⟩
  · rintro ⟨y, output, shared, different⟩
    have mine := (listed x.assignment.signal).2 ⟨x, member, rfl, rfl⟩
    have other := (listed y.assignment.signal).2 ⟨y, output, shared, rfl⟩
    have claimed : x ∈ claims outputs x.assignment.pin := mem_claims_iff.2 ⟨member, rfl⟩
    obtain ⟨first, rest, claims_eq⟩ := List.exists_cons_of_ne_nil (List.ne_nil_of_mem claimed)
    cases named : distinct ((claims outputs x.assignment.pin).map (·.assignment.signal)) with
    | nil => simp [named] at mine
    | cons kept losing =>
      rw [named] at mine other
      have contested : losing ≠ [] := by
        rintro rfl
        simp only [List.mem_singleton] at mine other
        exact different (other.trans mine.symm)
      refine ⟨⟨x.assignment.pin, first.register, kept, losing⟩, ?_, rfl, mine⟩
      exact mem_conflictsOf_iff.2 (conflictOn_eq_some_iff.2
        ⟨first, rest, claims_eq, rfl, rfl, contested, named.symm⟩)

end Conflicts

/-- A resolved assignment whose register holds another selector in the end. -/
def Dropped (r : Routing) (x : Resolved) : Prop :=
  x ∈ r.resolved ∧ r.selectors.get? x.register ≠ some x.selector

/-- A warning names the signal, the register and the selector that the register keeps. -/
def Warned (r : Routing) (x : Resolved) : Prop :=
  ∃ w ∈ r.repeats, w.signal = x.assignment.signal ∧ w.register = x.register ∧
    r.selectors.get? x.register = some w.kept

/-- A conflict on the pin names the signal among its contenders. -/
def Reported (r : Routing) (x : Resolved) : Prop :=
  ∃ c ∈ r.conflicts, c.pin = x.assignment.pin ∧ x.assignment.signal ∈ c.signals

def Contested (r : Routing) (x : Resolved) : Prop :=
  ∃ y ∈ r.outputs, y.assignment.pin = x.assignment.pin ∧
    y.assignment.signal ≠ x.assignment.signal

theorem Reported.clean {r : Routing} (reported : r.Reported x) : r.clean = false := by
  obtain ⟨c, member, _⟩ := reported
  simp [Routing.clean, List.ne_nil_of_mem member]

end Routing

namespace PinTables

open Routing

variable {t : PinTables} {assignments : List Assignment} {package : Option Int} {x : Resolved}

theorem get?_selectors_route (register : String) :
    (t.route assignments package).selectors.get? register =
      firstSelector? (t.route assignments package).resolved register :=
  get?_firstSelectors _ register

theorem warned_of_dropped (dropped : (t.route assignments package).Dropped x)
    (input : x.assignment.direction = .input) : (t.route assignments package).Warned x := by
  have lost := dropped.2
  rw [get?_selectors_route] at lost
  obtain ⟨w, repeated, signal, register, kept⟩ :=
    exists_repeatedInput OrderedMap.empty dropped.1 input lost
  exact ⟨w, repeated, signal, register, (get?_selectors_route x.register).trans kept⟩

theorem mem_outputs_iff :
    x ∈ (t.route assignments package).outputs ↔
      x ∈ (t.route assignments package).resolved ∧ x.assignment.direction = .output := by
  simp [Routing.outputs]

theorem exists_output?_of_mem (member : x ∈ (t.route assignments package).outputs) :
    ∃ p, t.output? x.assignment.pin = some p ∧ x.register = p.register := by
  obtain ⟨resolved, output⟩ := mem_outputs_iff.1 member
  obtain ⟨a, _, done⟩ := mem_resolved_iff.1 resolved
  have mine := assignment_of_resolve done
  rw [mine] at output
  simp only [resolve, output, resolveOutput_eq_ok_iff] at done
  obtain ⟨p, _, known, _, _, rfl⟩ := done
  exact ⟨p, known, rfl⟩

theorem reported_iff_contested (member : x ∈ (t.route assignments package).resolved)
    (output : x.assignment.direction = .output) :
    (t.route assignments package).Reported x ↔ (t.route assignments package).Contested x :=
  exists_conflict_iff (mem_outputs_iff.2 ⟨member, output⟩)

/-- Two assignments that put different selectors into one register, an output among them, are
outputs on one pin. -/
def Exclusive (t : PinTables) (package : Option Int) : Prop :=
  ∀ a b x y, t.resolve package a = .ok x → t.resolve package b = .ok y →
    a.direction = .output → x.register = y.register → x.selector ≠ y.selector →
      b.direction = .output ∧ b.pin = a.pin

theorem Exclusive.contested (exclusive : t.Exclusive package)
    (dropped : (t.route assignments package).Dropped x)
    (output : x.assignment.direction = .output) :
    (t.route assignments package).Contested x := by
  obtain ⟨member, lost⟩ := dropped
  rw [get?_selectors_route, firstSelector?] at lost
  -- The claim that was kept is the first on the register.
  cases found : (t.route assignments package).resolved.find? fun y => y.register == x.register with
  | none => exact absurd (List.find?_eq_none.1 found x member) (by simp)
  | some y =>
    have kept := List.mem_of_find?_eq_some found
    have shared : y.register = x.register := by simpa using List.find?_some found
    have different : x.selector ≠ y.selector := by
      intro same
      simp [found, same] at lost
    obtain ⟨a, _, first⟩ := mem_resolved_iff.1 member
    obtain ⟨b, _, second⟩ := mem_resolved_iff.1 kept
    have mine := assignment_of_resolve first
    have other := assignment_of_resolve second
    obtain ⟨driven, pin⟩ := exclusive a b x y first second (mine ▸ output) shared.symm different
    refine ⟨y, mem_outputs_iff.2 ⟨kept, other ▸ driven⟩, by rw [mine, other, pin], ?_⟩
    intro signal
    -- One signal on one pin is one assignment, which has one selector.
    have again : a = b := by
      rw [mine, other] at signal
      cases a
      cases b
      simp_all
    rw [again, second] at first
    exact different (congrArg Resolved.selector (Except.ok.inj first).symm)

theorem exclusive_of_contested
    (contested : ∀ assignments x, (t.route assignments package).Dropped x →
      x.assignment.direction = .output → (t.route assignments package).Contested x) :
    t.Exclusive package := by
  intro a b x y first second output shared different
  have mine := assignment_of_resolve first
  have other := assignment_of_resolve second
  -- Routed behind the other claim, the output loses the register.
  have resolved : (t.route [b, a] package).resolved = [y, x] := by
    simp [route, first, second, Except.toOption]
  have dropped : (t.route [b, a] package).Dropped x := by
    refine ⟨by simp [resolved], ?_⟩
    rw [get?_selectors_route, resolved]
    simp [firstSelector?, shared, Ne.symm different]
  obtain ⟨z, present, pin, signal⟩ := contested [b, a] x dropped (mine ▸ output)
  rw [mem_outputs_iff, resolved] at present
  obtain ⟨member, driven⟩ := present
  simp only [List.mem_cons, List.not_mem_nil, or_false] at member
  rcases member with rfl | rfl
  · exact ⟨other ▸ driven, by rw [← other, ← mine, pin]⟩
  · exact absurd rfl signal

/-- No register of an output pin is that of an input signal or of another output pin. -/
def OwnRegisters (t : PinTables) : Prop :=
  ∀ p ∈ t.outputs.values, (∀ s ∈ t.inputs.values, s.register ≠ p.register) ∧
    ∀ q ∈ t.outputs.values, q.register = p.register → q.pin = p.pin

theorem OwnRegisters.exclusive (own : t.OwnRegisters) (sound : t.Sound) : t.Exclusive package := by
  intro a b x y first second output shared _
  have listed {pin : String} {p : OutputPin} (known : t.output? pin = some p) :
      p ∈ t.outputs.values ∧ p.pin = pin := by
    have present := OrderedMap.get?_eq_some_iff.1 known
    exact ⟨List.mem_map.2 ⟨_, present, rfl⟩, sound.output_keyed _ present⟩
  simp only [resolve, output, resolveOutput_eq_ok_iff] at first
  obtain ⟨p, _, known, _, _, rfl⟩ := first
  obtain ⟨member, pin⟩ := listed known
  unfold resolve at second
  split at second
  · obtain ⟨s, _, _, named, _, _, _, _, rfl⟩ := resolveInput_eq_ok_iff.1 second
    have present : s ∈ t.inputs.values :=
      List.mem_map.2 ⟨_, OrderedMap.get?_eq_some_iff.1 named, rfl⟩
    exact absurd shared.symm ((own p member).1 s present)
  · rename_i driven
    obtain ⟨q, _, named, _, _, rfl⟩ := resolveOutput_eq_ok_iff.1 second
    obtain ⟨present, other⟩ := listed named
    exact ⟨driven, by rw [← other, ← pin, (own p member).2 q present shared.symm]⟩

/-- A lost input is always warned about. A lost output is reported exactly where another signal
claims its pin, and so every lost output of every batch is reported if and only if the tables are
exclusive, as they are where each output pin has a register of its own. -/
theorem dropped_accounted_iff {groups : List PinGroup} {inputs : List InputSignal}
    {outputs : List OutputPin} (built : build groups inputs outputs = .ok t)
    (package : Option Int) :
    (∀ assignments x, (t.route assignments package).Dropped x →
      (x.assignment.direction = .input → (t.route assignments package).Warned x) ∧
      (x.assignment.direction = .output → ((t.route assignments package).Reported x ↔
        (t.route assignments package).Contested x))) ∧
    ((∀ assignments x, (t.route assignments package).Dropped x →
      x.assignment.direction = .output → (t.route assignments package).Reported x ∧
        (t.route assignments package).clean = false) ↔ t.Exclusive package) ∧
    (t.OwnRegisters → t.Exclusive package) := by
  refine ⟨?_, ⟨?_, ?_⟩, fun own => own.exclusive (build_eq_ok_iff.1 built).1⟩
  · intro assignments x dropped
    exact ⟨warned_of_dropped dropped, reported_iff_contested dropped.1⟩
  · intro reported
    refine exclusive_of_contested fun assignments x dropped output => ?_
    exact (reported_iff_contested dropped.1 output).1 (reported assignments x dropped output).1
  · intro exclusive assignments x dropped output
    have reported := (reported_iff_contested dropped.1 output).2 (exclusive.contested dropped output)
    exact ⟨reported, reported.clean⟩

/-! An input signal whose register is also that of an output pin. -/

def sharedGroup : PinGroup := ⟨0, [⟨0, "RPA0", 0⟩, ⟨5, "RPA1", 0⟩]⟩

def sharedInput : InputSignal :=
  { signal := "U1RX", register := "RPA0R", group := 0, selectors := [0, 5] }

def sharedOutput : OutputPin :=
  ⟨"RPA0", "RPA0R", 0, [{ selector := 1, signal := "U1TX" }, { selector := 2, signal := "SDO1" }]⟩

def crowded : List Assignment :=
  [⟨"U1RX", "RPA1", .input⟩, ⟨"U1RX", "RPA0", .input⟩, ⟨"U1TX", "RPA0", .output⟩,
    ⟨"SDO1", "RPA0", .output⟩]

theorem dropped_accounted_iff_shared :
    ∃ t, build [sharedGroup] [sharedInput] [sharedOutput] = .ok t ∧
      (t.route crowded none).Dropped ⟨⟨"U1RX", "RPA0", .input⟩, "RPA0R", 0⟩ ∧
      (t.route crowded none).Warned ⟨⟨"U1RX", "RPA0", .input⟩, "RPA0R", 0⟩ ∧
      (t.route crowded none).Dropped ⟨⟨"U1TX", "RPA0", .output⟩, "RPA0R", 1⟩ ∧
      (t.route crowded none).Reported ⟨⟨"U1TX", "RPA0", .output⟩, "RPA0R", 1⟩ := by
  obtain ⟨t, built, resolved, kept⟩ :
      ∃ t, build [sharedGroup] [sharedInput] [sharedOutput] = .ok t ∧
        (t.route crowded none).resolved =
          [⟨⟨"U1RX", "RPA1", .input⟩, "RPA0R", 5⟩, ⟨⟨"U1RX", "RPA0", .input⟩, "RPA0R", 0⟩,
            ⟨⟨"U1TX", "RPA0", .output⟩, "RPA0R", 1⟩, ⟨⟨"SDO1", "RPA0", .output⟩, "RPA0R", 2⟩] ∧
        (t.route crowded none).selectors.get? "RPA0R" = some 5 :=
    ⟨_, rfl, rfl, rfl⟩
  have input : (t.route crowded none).Dropped ⟨⟨"U1RX", "RPA0", .input⟩, "RPA0R", 0⟩ :=
    ⟨by simp [resolved], by simp [kept]⟩
  have output : (t.route crowded none).Dropped ⟨⟨"U1TX", "RPA0", .output⟩, "RPA0R", 1⟩ :=
    ⟨by simp [resolved], by simp [kept]⟩
  have accounted := (dropped_accounted_iff built none).1 crowded
  refine ⟨t, built, input, (accounted _ input).1 rfl, output, ((accounted _ output).2 rfl).2 ?_⟩
  exact ⟨⟨⟨"SDO1", "RPA0", .output⟩, "RPA0R", 2⟩, mem_outputs_iff.2 ⟨by simp [resolved], rfl⟩, rfl,
    by decide⟩

/-- An output behind an input on its register is resolved and lost, and the routing is clean. -/
theorem output_dropped_silently :
    ∃ t, build [sharedGroup] [sharedInput] [sharedOutput] = .ok t ∧
      (t.route [⟨"U1RX", "RPA1", .input⟩, ⟨"U1TX", "RPA0", .output⟩] none).Dropped
        ⟨⟨"U1TX", "RPA0", .output⟩, "RPA0R", 1⟩ ∧
      (t.route [⟨"U1RX", "RPA1", .input⟩, ⟨"U1TX", "RPA0", .output⟩] none).conflicts = [] ∧
      (t.route [⟨"U1RX", "RPA1", .input⟩, ⟨"U1TX", "RPA0", .output⟩] none).repeats = [] ∧
      (t.route [⟨"U1RX", "RPA1", .input⟩, ⟨"U1TX", "RPA0", .output⟩] none).clean = true :=
  ⟨_, rfl, ⟨.tail _ (.head _), by decide⟩, rfl, rfl, rfl⟩

end PinTables
end ConfigWords
