import ConfigWords.Proofs.Pins.FirstClaims

/-! One batch on packages of different sizes.
Whether a package has a pin depends on the pin alone, so a package keeps all that any package
resolves for a pin, or nothing of it. A smaller package therefore gives a part of the routing that a
larger one gives, and refuses more. -/
namespace ConfigWords

namespace Routing

section Conflicts

variable (p : String → Bool) (outputs : List Resolved)

theorem conflictOn_filter (pin : String) :
    (if p pin then conflictOn (outputs.filter fun x => p x.assignment.pin) pin else none) =
      (conflictOn outputs pin).filter fun c => p c.pin := by
  have own : (conflictOn outputs pin).filter (fun c => p c.pin) =
      if p pin then conflictOn outputs pin else none := by
    cases found : conflictOn outputs pin with
    | none => simp
    | some c =>
      obtain ⟨_, _, _, same, _⟩ := conflictOn_eq_some_iff.1 found
      simp [Option.filter, same]
  rw [own]
  cases passes : p pin with
  | false => rfl
  | true =>
    have alike : claims (outputs.filter fun x => p x.assignment.pin) pin = claims outputs pin := by
      rw [claims, claims, List.filter_filter]
      apply List.filter_congr
      intro x _
      cases here : x.assignment.pin == pin with
      | false => rfl
      | true => simp [eq_of_beq here, passes]
    simp only [if_true, conflictOn, alike]

theorem conflictsOf_filter :
    conflictsOf (outputs.filter fun x => p x.assignment.pin) =
      (conflictsOf outputs).filter fun c => p c.pin := by
  have pins : (outputs.filter fun x => p x.assignment.pin).map (·.assignment.pin) =
      (outputs.map (·.assignment.pin)).filter p := by
    rw [List.filter_map]
    rfl
  rw [conflictsOf, conflictsOf, pins, ← filter_distinct, List.filterMap_filter,
    List.filter_filterMap]
  exact List.filterMap_congr fun pin _ => conflictOn_filter p outputs pin

end Conflicts

/-- The first routing is a part of the second and refuses more. Where all its refusals can be put in
words, those of the second can. -/
structure Within (r s : Routing) : Prop where
  resolved : r.resolved.Sublist s.resolved
  refused : s.refused.Sublist r.refused
  conflicts : r.conflicts.Sublist s.conflicts
  registers : r.selectors.keys ⊆ s.selectors.keys
  written : r.written = .ok r → s.written = .ok s

end Routing

namespace PinTables

open Routing

variable {t : PinTables} {package other : Option Int} {a : Assignment} {x : Resolved}

/-- The first package has no more pins than the second; no package has as many as any. -/
def NoLarger (package other : Option Int) : Prop :=
  ∀ size, other = some size → ∃ own, package = some own ∧ own ≤ size

def bonded (t : PinTables) (package : Option Int) (pin : String) : Bool :=
  package.all fun size => t.minPinCount pin ≤ size

theorem bonded_iff {pin : String} :
    t.bonded package pin = true ↔ Fits package (t.minPinCount pin) := by
  cases package <;> simp [bonded, Fits]

theorem NoLarger.bonded (smaller : NoLarger package other) {pin : String}
    (fits : t.bonded package pin = true) : t.bonded other pin = true := by
  rw [bonded_iff] at fits ⊢
  intro size given
  obtain ⟨own, here, less⟩ := smaller size given
  exact Int.le_trans (fits own here) less

theorem NoLarger.refuses (smaller : NoLarger package other) {refusal : Refusal}
    (refused : t.Refuses other a refusal) : t.Refuses package a refusal := by
  cases refused with
  | unknownInput reads unknown => exact .unknownInput reads unknown
  | notInGroup reads known outside => exact .notInGroup reads known outside
  | notRemappable drives unknown => exact .notRemappable drives unknown
  | notSelectable drives known missing => exact .notSelectable drives known missing
  | largerPackage routable given larger =>
    obtain ⟨own, here, less⟩ := smaller _ given
    exact .largerPackage routable here (Int.lt_of_le_of_lt less larger)

/-- A package resolves what any package would, where it has the pin. -/
theorem toOption_resolve (t : PinTables) (package : Option Int) (a : Assignment) :
    (t.resolve package a).toOption =
      (t.resolve none a).toOption.filter fun x => t.bonded package x.assignment.pin := by
  rw [resolve_eq_bind]
  cases routable : t.resolve none a with
  | error r => rfl
  | ok x =>
    have pin : x.assignment.pin = a.pin := by rw [assignment_of_resolve routable]
    have kept : (Except.ok x : Except Refused Resolved).toOption.filter
        (fun x => t.bonded package x.assignment.pin) =
          if t.bonded package a.pin then some x else none := by
      rw [← pin]
      rfl
    rw [ok_bind, kept]
    cases checked : t.checkPackage a package with
    | ok _ =>
      have fits := bonded_iff.2 (checkPackage_eq_ok_iff.1 checked)
      rw [if_pos fits]
      rfl
    | error r =>
      have lacks : ¬ t.bonded package a.pin = true := by
        rw [bonded_iff, ← checkPackage_eq_ok_iff (u := ()), checked]
        exact nofun
      rw [if_neg lacks]
      rfl

theorem resolved_package (t : PinTables) (package : Option Int) (assignments : List Assignment) :
    (t.route assignments package).resolved =
      (t.route assignments none).resolved.filter fun x => t.bonded package x.assignment.pin := by
  simp only [route, List.filterMap_map, List.filter_filterMap]
  exact List.filterMap_congr fun a _ => t.toOption_resolve package a

theorem conflicts_package (t : PinTables) (package : Option Int) (assignments : List Assignment) :
    (t.route assignments package).conflicts =
      (t.route assignments none).conflicts.filter fun c => t.bonded package c.pin := by
  have outputs : (t.route assignments package).outputs =
      (t.route assignments none).outputs.filter fun x => t.bonded package x.assignment.pin := by
    rw [Routing.outputs, resolved_package, List.filter_comm]
    rfl
  exact (congrArg conflictsOf outputs).trans (conflictsOf_filter _ _)

/-- Whatever a package refuses, a smaller one refuses for the same reason. -/
theorem NoLarger.sublist_refused (smaller : NoLarger package other)
    (assignments : List Assignment) :
    (t.route assignments other).refused.Sublist (t.route assignments package).refused := by
  simp only [route, List.filterMap_map]
  apply sublist_filterMap
  intro a _ r found
  cases outcome : t.resolve other a with
  | ok x => simp [outcome] at found
  | error r' =>
    have same : r' = r := by simpa [outcome] using found
    obtain ⟨own, refused⟩ := resolve_eq_error_iff.1 (same ▸ outcome)
    have again : t.resolve package a = .error r :=
      resolve_eq_error_iff.2 ⟨own, smaller.refuses refused⟩
    simp [again]

/-- The routing of a batch on a package is a part of its routing on any larger one. -/
theorem route_within (t : PinTables) (smaller : NoLarger package other)
    (assignments : List Assignment) :
    (t.route assignments package).Within (t.route assignments other) := by
  have bonded : ∀ pin, t.bonded package pin = true → t.bonded other pin = true :=
    fun _ => smaller.bonded
  have resolved : (t.route assignments package).resolved.Sublist
      (t.route assignments other).resolved := by
    rw [resolved_package, resolved_package t other]
    exact List.monotone_filter_right _ fun x => bonded x.assignment.pin
  have refused := smaller.sublist_refused (t := t) assignments
  refine ⟨resolved, refused, ?_, ?_, ?_⟩
  · rw [conflicts_package, conflicts_package t other]
    exact List.monotone_filter_right _ fun c => bonded c.pin
  · intro register claimed
    have known := mem_keys_firstSelectors_iff.1 claimed
    exact mem_keys_firstSelectors_iff.2 ((resolved.map _).subset known)
  · intro written
    rw [written_eq_ok_iff] at written ⊢
    exact fun r member => written r (refused.subset member)

/-! Two pins of which the smaller package has one. On the larger one both are disputed. -/

def packedGroup : PinGroup := ⟨0, [⟨0, "RPA0", 64⟩, ⟨1, "RPA1", 100⟩]⟩

def packedOutput (pin register : String) : OutputPin :=
  ⟨pin, register, 0, [{ selector := 1, signal := "U1TX" }, { selector := 2, signal := "SDO1" }]⟩

def packed : List Assignment :=
  [⟨"U1TX", "RPA1", .output⟩, ⟨"U1TX", "RPA0", .output⟩, ⟨"SDO1", "RPA1", .output⟩,
    ⟨"SDO1", "RPA0", .output⟩]

theorem route_within_packed :
    ∃ t, build [packedGroup] [] [packedOutput "RPA0" "RPA0R", packedOutput "RPA1" "RPA1R"] = .ok t ∧
      (t.route packed (some 64)).conflicts.map (·.pin) = ["RPA0"] ∧
      (t.route packed none).conflicts.map (·.pin) = ["RPA1", "RPA0"] ∧
      NoLarger (some 64) (some 100) ∧ NoLarger (some 100) none ∧
      (t.route packed (some 64)).Within (t.route packed (some 100)) ∧
      (t.route packed (some 100)).Within (t.route packed none) := by
  have less : NoLarger (some 64) (some 100) := by
    rintro _ ⟨⟩
    exact ⟨64, rfl, by decide⟩
  have any : NoLarger (some 100) none := nofun
  exact ⟨_, rfl, rfl, rfl, less, any, route_within _ less packed, route_within _ any packed⟩

end PinTables
end ConfigWords
