import ConfigWords.Proofs.Pins.Collecting
import ConfigWords.Proofs.Pins.Refusals

/-! Selectors read back.
The routing finds its entries by name and takes the first of that name; a device finds them by
selector. Accepted tables give every selector one meaning, so what a selector leads to has the name
that was asked for, even where a name stands twice. -/
namespace ConfigWords

namespace PinTables

open Routing

variable {t : PinTables} {package : Option Int} {a : Assignment} {x y : Resolved}

/-- The one entry of the signal's group with the selector has the pin that was asked for. On an
output pin, the one value with the selector has the signal. -/
inductive ReadsBack (t : PinTables) (x : Resolved) : Prop
  | input {s : InputSignal} {g : PinGroup} {e : GroupPin}
      (reads : x.assignment.direction = .input)
      (known : t.input? x.assignment.signal = some s) (register : x.register = s.register)
      (accepted : x.selector ∈ s.selectors) (grouped : t.group? s.group = some g)
      (only : (g.pins.filter fun e => e.selector == x.selector) = [e])
      (pin : e.pin = x.assignment.pin)
  | output {p : OutputPin} {o : OutputValue}
      (drives : x.assignment.direction = .output)
      (known : t.output? x.assignment.pin = some p) (register : x.register = p.register)
      (only : (p.outputs.filter fun o => o.selector == x.selector) = [o])
      (signal : o.signal = x.assignment.signal)

theorem Sound.nodup_of_group? (sound : t.Sound) {number : Int} {g : PinGroup}
    (grouped : t.group? number = some g) : (g.pins.map (·.selector)).Nodup :=
  sound.selectors_nodup g (List.mem_map.2 ⟨_, OrderedMap.get?_eq_some_iff.1 grouped, rfl⟩)

theorem Sound.nodup_of_output? (sound : t.Sound) {pin : String} {p : OutputPin}
    (known : t.output? pin = some p) : (p.outputs.map (·.selector)).Nodup :=
  sound.outputs_nodup p (List.mem_map.2 ⟨_, OrderedMap.get?_eq_some_iff.1 known, rfl⟩)

theorem Sound.readsBack (sound : t.Sound) (resolved : t.resolve package a = .ok x) :
    t.ReadsBack x := by
  unfold resolve at resolved
  split at resolved
  · rename_i reads
    obtain ⟨s, g, e, known, grouped, first, accepted, _, rfl⟩ :=
      resolveInput_eq_ok_iff.1 resolved
    have placed : e ∈ g.pins := List.mem_of_find?_eq_some first
    have named : e.pin = a.pin := by simpa using List.find?_some first
    exact .input reads known rfl accepted grouped
      (filter_key_of_nodup (sound.nodup_of_group? grouped) placed) named
  · rename_i drives
    obtain ⟨p, o, known, first, _, rfl⟩ := resolveOutput_eq_ok_iff.1 resolved
    have offered : o ∈ p.outputs := List.mem_of_find?_eq_some first
    have named : o.signal = a.signal := by simpa using List.find?_some first
    exact .output drives known rfl (filter_key_of_nodup (sound.nodup_of_output? known) offered) named

theorem ReadsBack.pin_eq (first : t.ReadsBack x) (second : t.ReadsBack y)
    (reads : x.assignment.direction = .input) (also : y.assignment.direction = .input)
    (signal : x.assignment.signal = y.assignment.signal) (selector : x.selector = y.selector) :
    x.assignment.pin = y.assignment.pin := by
  cases first with
  | output drives => cases reads.symm.trans drives
  | input _ known _ _ grouped only pin =>
    cases second with
    | output drives => cases also.symm.trans drives
    | input _ known' _ _ grouped' only' pin' =>
      rw [signal, known'] at known
      cases known
      rw [grouped'] at grouped
      cases grouped
      rw [selector, only'] at only
      cases only
      exact pin.symm.trans pin'

theorem ReadsBack.signal_eq (first : t.ReadsBack x) (second : t.ReadsBack y)
    (drives : x.assignment.direction = .output) (also : y.assignment.direction = .output)
    (pin : x.assignment.pin = y.assignment.pin) (selector : x.selector = y.selector) :
    x.assignment.signal = y.assignment.signal := by
  cases first with
  | input reads => cases drives.symm.trans reads
  | output _ known _ only signal =>
    cases second with
    | input reads => cases also.symm.trans reads
    | output _ known' _ only' signal' =>
      rw [pin, known'] at known
      cases known
      rw [selector, only'] at only
      cases only
      exact signal.symm.trans signal'

theorem mem_inputs_iff {assignments : List Assignment} :
    x ∈ (t.route assignments package).inputs ↔
      x ∈ (t.route assignments package).resolved ∧ x.assignment.direction = .input := by
  simp [Routing.inputs]

theorem Sound.readsBack_of_route (sound : t.Sound) {assignments : List Assignment}
    (member : x ∈ (t.route assignments package).resolved) :
    x.assignment ∈ assignments ∧ t.ReadsBack x := by
  obtain ⟨a, asked, resolved⟩ := mem_resolved_iff.1 member
  exact ⟨assignment_of_resolve resolved ▸ asked, sound.readsBack resolved⟩

/-- Every resolved assignment is one of the batch, and its selector leads back to it. So the selector
of a signal tells the pin that it reads, and the selector of a pin the signal that drives it. This
routing is what comes back, unless a refusal names too long a number. -/
theorem route_readsBack {groups : List PinGroup} {inputs : List InputSignal}
    {outputs : List OutputPin} (built : build groups inputs outputs = .ok t)
    (assignments : List Assignment) (package : Option Int) :
    (∀ x ∈ (t.route assignments package).resolved, x.assignment ∈ assignments ∧ t.ReadsBack x) ∧
    (∀ x ∈ (t.route assignments package).inputs, ∀ y ∈ (t.route assignments package).inputs,
      x.assignment.signal = y.assignment.signal → x.selector = y.selector →
        x.assignment.pin = y.assignment.pin) ∧
    (∀ x ∈ (t.route assignments package).outputs, ∀ y ∈ (t.route assignments package).outputs,
      x.assignment.pin = y.assignment.pin → x.selector = y.selector →
        x.assignment.signal = y.assignment.signal) ∧
    ∀ r, (t.route assignments package).written = .ok r ↔
      r = t.route assignments package ∧ t.Told package assignments := by
  have sound := (build_eq_ok_iff.1 built).1
  refine ⟨fun x member => sound.readsBack_of_route member, ?_, ?_, fun _ => written_route_eq_ok_iff⟩
  · intro x first y second
    obtain ⟨resolved, reads⟩ := mem_inputs_iff.1 first
    obtain ⟨resolved', also⟩ := mem_inputs_iff.1 second
    exact (sound.readsBack_of_route resolved).2.pin_eq (sound.readsBack_of_route resolved').2
      reads also
  · intro x first y second
    obtain ⟨resolved, drives⟩ := mem_outputs_iff.1 first
    obtain ⟨resolved', also⟩ := mem_outputs_iff.1 second
    exact (sound.readsBack_of_route resolved).2.signal_eq (sound.readsBack_of_route resolved').2
      drives also

/-! A pin with two selectors in its group, and a signal with two selectors on its pin. -/

def echoGroup : PinGroup := ⟨0, [⟨0, "RPA0", 0⟩, ⟨1, "RPA1", 0⟩, ⟨2, "RPA1", 0⟩]⟩

def echoInput : InputSignal :=
  { signal := "U1RX", register := "U1RXR", group := 0, selectors := [0, 1, 2] }

def echoOutput : OutputPin :=
  ⟨"RPA0", "RPA0R", 0, [{ selector := 1, signal := "U1TX" }, { selector := 2, signal := "U1TX" }]⟩

def echoed : List Assignment := [⟨"U1RX", "RPA1", .input⟩, ⟨"U1TX", "RPA0", .output⟩]

theorem route_readsBack_echoed :
    ∃ t, build [echoGroup] [echoInput] [echoOutput] = .ok t ∧
      (t.route echoed none).written = .ok (t.route echoed none) ∧
      (t.route echoed none).resolved =
        [⟨⟨"U1RX", "RPA1", .input⟩, "U1RXR", 1⟩, ⟨⟨"U1TX", "RPA0", .output⟩, "RPA0R", 1⟩] ∧
      t.ReadsBack ⟨⟨"U1RX", "RPA1", .input⟩, "U1RXR", 1⟩ ∧
      t.ReadsBack ⟨⟨"U1TX", "RPA0", .output⟩, "RPA0R", 1⟩ := by
  obtain ⟨t, built, written, resolved⟩ :
      ∃ t, build [echoGroup] [echoInput] [echoOutput] = .ok t ∧
        (t.route echoed none).written = .ok (t.route echoed none) ∧
        (t.route echoed none).resolved =
          [⟨⟨"U1RX", "RPA1", .input⟩, "U1RXR", 1⟩, ⟨⟨"U1TX", "RPA0", .output⟩, "RPA0R", 1⟩] :=
    ⟨_, rfl, rfl, rfl⟩
  obtain ⟨each, _, _, back⟩ := route_readsBack built echoed none
  rw [resolved] at each
  have told : t.Told none echoed := written_route_iff.1 written
  exact ⟨t, built, (back _).2 ⟨rfl, told⟩, resolved, (each _ (.head _)).2,
    (each _ (.tail _ (.head _))).2⟩

end PinTables
end ConfigWords
