import ConfigWords.Proofs.Pins.Collecting
import ConfigWords.Proofs.Pins.Refusals

/-! The order of the assignments in a batch.
Every assignment is resolved on its own and conflicts are found by pin, so the order decides no more
than which claim on a contested register is kept and in what order things are listed. -/
namespace ConfigWords

namespace Routing

section Conflicts

variable {outputs others : List Resolved} {pin : String}

theorem conflictOn_isSome_iff :
    (conflictOn outputs pin).isSome = true ↔
      1 < (distinct ((claims outputs pin).map (·.assignment.signal))).length := by
  constructor
  · intro found
    obtain ⟨c, conflict⟩ := Option.isSome_iff_exists.1 found
    obtain ⟨_, _, _, _, _, contested, named⟩ := conflictOn_eq_some_iff.1 conflict
    rw [← named, PinConflict.signals, List.length_cons]
    exact Nat.succ_lt_succ (List.length_pos_iff.2 contested)
  · intro several
    unfold conflictOn
    split
    · rfl
    · rename_i none_found
      cases claimed : claims outputs pin with
      | nil => simp [claimed, distinct] at several
      | cons first rest =>
        cases named : distinct ((claims outputs pin).map (·.assignment.signal)) with
        | nil => simp [named] at several
        | cons kept more =>
          cases more with
          | nil => simp [named] at several
          | cons other more => exact (none_found first rest kept other more claimed named).elim

theorem map_pin_conflictsOf :
    (conflictsOf outputs).map (·.pin) =
      (distinct (outputs.map (·.assignment.pin))).filter fun pin =>
        (conflictOn outputs pin).isSome := by
  have guarded (pin : String) : (conflictOn outputs pin).map (·.pin) =
      Option.guard (fun pin => (conflictOn outputs pin).isSome) pin := by
    cases found : conflictOn outputs pin with
    | none => simp [Option.guard, found]
    | some c =>
      obtain ⟨_, _, _, rfl, _⟩ := conflictOn_eq_some_iff.1 found
      simp [Option.guard, found]
  rw [conflictsOf, List.map_filterMap, ← List.filterMap_eq_filter]
  exact List.filterMap_congr fun pin _ => guarded pin

theorem perm_claims (same : outputs.Perm others) (pin : String) :
    (claims outputs pin).Perm (claims others pin) :=
  same.filter _

theorem perm_signals (same : outputs.Perm others) (pin : String) :
    (distinct ((claims outputs pin).map (·.assignment.signal))).Perm
      (distinct ((claims others pin).map (·.assignment.signal))) :=
  perm_distinct ((perm_claims same pin).map _)

theorem perm_conflict_pins (same : outputs.Perm others) :
    ((conflictsOf outputs).map (·.pin)).Perm ((conflictsOf others).map (·.pin)) := by
  have alike : ∀ pin, (conflictOn outputs pin).isSome = (conflictOn others pin).isSome := by
    intro pin
    rw [Bool.eq_iff_iff, conflictOn_isSome_iff, conflictOn_isSome_iff,
      (perm_signals same pin).length_eq]
  rw [map_pin_conflictsOf, map_pin_conflictsOf]
  simp only [alike]
  exact (perm_distinct (same.map _)).filter _

end Conflicts

section Selectors

variable {resolved others : List Resolved} {register : String}

theorem firstSelector?_isSome_iff :
    (firstSelector? resolved register).isSome = true ↔ register ∈ resolved.map (·.register) := by
  simp [firstSelector?]

theorem mem_keys_firstSelectors_iff :
    register ∈ (firstSelectors resolved).keys ↔ register ∈ resolved.map (·.register) := by
  rw [← OrderedMap.contains_eq_true_iff, OrderedMap.contains_eq_isSome, get?_firstSelectors,
    firstSelector?_isSome_iff]

theorem perm_keys_firstSelectors (same : resolved.Perm others) :
    (firstSelectors resolved).keys.Perm (firstSelectors others).keys := by
  rw [List.perm_ext_iff_of_nodup (OrderedMap.nodup_keys _) (OrderedMap.nodup_keys _)]
  intro register
  rw [mem_keys_firstSelectors_iff, mem_keys_firstSelectors_iff]
  exact (same.map _).mem_iff

/-- All claims on a register have one selector. -/
def Agreed (resolved : List Resolved) : Prop :=
  ∀ x ∈ resolved, ∀ y ∈ resolved, x.register = y.register → x.selector = y.selector

theorem Agreed.firstSelector?_eq_some_iff (agreed : Agreed resolved) {selector : Int} :
    firstSelector? resolved register = some selector ↔
      ∃ x ∈ resolved, x.register = register ∧ x.selector = selector := by
  constructor
  · intro found
    obtain ⟨x, first, rfl⟩ := Option.map_eq_some_iff.1 found
    exact ⟨x, List.mem_of_find?_eq_some first, by simpa using List.find?_some first, rfl⟩
  · rintro ⟨x, member, rfl, rfl⟩
    obtain ⟨selector, found⟩ := Option.isSome_iff_exists.1
      (firstSelector?_isSome_iff.2 (List.mem_map_of_mem member))
    obtain ⟨y, first, rfl⟩ := Option.map_eq_some_iff.1 found
    have shared : y.register = x.register := by simpa using List.find?_some first
    rw [found, agreed y (List.mem_of_find?_eq_some first) x member shared]

theorem Agreed.perm (agreed : Agreed resolved) (same : resolved.Perm others) : Agreed others := by
  intro x first y second
  exact agreed x (same.mem_iff.2 first) y (same.mem_iff.2 second)

theorem Agreed.perm_firstSelectors (agreed : Agreed resolved) (same : resolved.Perm others) :
    (firstSelectors resolved).entries.Perm (firstSelectors others).entries := by
  rw [List.perm_ext_iff_of_nodup (OrderedMap.nodup_entries _) (OrderedMap.nodup_entries _)]
  rintro ⟨register, selector⟩
  rw [← OrderedMap.get?_eq_some_iff, ← OrderedMap.get?_eq_some_iff, get?_firstSelectors,
    get?_firstSelectors, agreed.firstSelector?_eq_some_iff,
    (agreed.perm same).firstSelector?_eq_some_iff]
  simp only [same.mem_iff]

end Selectors

/-- The two routings say the same up to the order in which they list it. Where every register has
claims of one selector only, they also write the same selectors. -/
structure Alike (r s : Routing) : Prop where
  clean : r.clean = s.clean
  written : r.written = .ok r ↔ s.written = .ok s
  refused : r.refused.Perm s.refused
  resolved : r.resolved.Perm s.resolved
  conflict_pins : (r.conflicts.map (·.pin)).Perm (s.conflicts.map (·.pin))
  conflicts : ∀ c ∈ r.conflicts, ∀ e ∈ s.conflicts, c.pin = e.pin →
    c.register = e.register ∧ c.signals.Perm e.signals
  registers : r.selectors.keys.Perm s.selectors.keys
  selectors : Agreed r.resolved → r.selectors.entries.Perm s.selectors.entries

end Routing

namespace PinTables

open Routing

variable {t : PinTables} {package : Option Int} {assignments others : List Assignment}

theorem perm_resolved (same : assignments.Perm others) :
    (t.route assignments package).resolved.Perm (t.route others package).resolved :=
  (same.map _).filterMap _

theorem perm_refused (same : assignments.Perm others) :
    (t.route assignments package).refused.Perm (t.route others package).refused :=
  (same.map _).filterMap _

theorem register_of_outputs {x y : Resolved} (first : x ∈ (t.route assignments package).outputs)
    (second : y ∈ (t.route others package).outputs) (pin : x.assignment.pin = y.assignment.pin) :
    x.register = y.register := by
  obtain ⟨p, known, register⟩ := exists_output?_of_mem first
  obtain ⟨q, again, other⟩ := exists_output?_of_mem second
  rw [pin, again] at known
  rw [register, other, Option.some.inj known]

theorem perm_outputs (same : assignments.Perm others) :
    (t.route assignments package).outputs.Perm (t.route others package).outputs :=
  (perm_resolved same).filter _

theorem conflict_perm (same : assignments.Perm others) {c e : PinConflict}
    (first : c ∈ (t.route assignments package).conflicts)
    (second : e ∈ (t.route others package).conflicts) (pin : c.pin = e.pin) :
    c.register = e.register ∧ c.signals.Perm e.signals := by
  obtain ⟨x, _, claimed, _, register, _, named⟩ :=
    conflictOn_eq_some_iff.1 (mem_conflictsOf_iff.1 first)
  obtain ⟨y, _, again, _, other, _, renamed⟩ :=
    conflictOn_eq_some_iff.1 (mem_conflictsOf_iff.1 second)
  obtain ⟨mine, here⟩ := mem_claims_iff.1 (claimed ▸ List.mem_cons_self)
  obtain ⟨yours, there⟩ := mem_claims_iff.1 (again ▸ List.mem_cons_self)
  constructor
  · rw [register, other]
    exact register_of_outputs mine yours (here.trans (pin.trans there.symm))
  · rw [named, renamed, pin]
    exact perm_signals (perm_outputs same) e.pin

/-- Two batches of the same assignments have the same routing up to order. -/
theorem route_perm (t : PinTables) (package : Option Int) (same : assignments.Perm others) :
    (t.route assignments package).Alike (t.route others package) := by
  have refused : (t.route assignments package).refused.Perm
      (t.route others package).refused := perm_refused same
  have resolved : (t.route assignments package).resolved.Perm
      (t.route others package).resolved := perm_resolved same
  have pins : ((t.route assignments package).conflicts.map (·.pin)).Perm
      ((t.route others package).conflicts.map (·.pin)) := perm_conflict_pins (perm_outputs same)
  have conflicted := pins.isEmpty_eq
  rw [List.isEmpty_map, List.isEmpty_map] at conflicted
  exact {
    clean := by rw [Routing.clean, Routing.clean, conflicted, refused.isEmpty_eq]
    written := by simp only [written_eq_ok_iff, refused.mem_iff]
    refused := refused
    resolved := resolved
    conflict_pins := pins
    conflicts := fun _ first _ second => conflict_perm same first second
    registers := perm_keys_firstSelectors resolved
    selectors := fun agreed => agreed.perm_firstSelectors resolved }

/-! The crowded batch from its end: another claim is kept, and the contenders are listed the other
way round. -/

theorem route_perm_crowded :
    ∃ t, build [sharedGroup] [sharedInput] [sharedOutput] = .ok t ∧
      (t.route crowded none).conflicts.map (·.signals) = [["U1TX", "SDO1"]] ∧
      (t.route crowded.reverse none).conflicts.map (·.signals) = [["SDO1", "U1TX"]] ∧
      (t.route crowded none).Alike (t.route crowded.reverse none) :=
  ⟨_, rfl, rfl, rfl, route_perm _ none (List.reverse_perm crowded).symm⟩

end PinTables
end ConfigWords
