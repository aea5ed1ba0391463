import ConfigWords.Pins.Ledger
import ConfigWords.Proofs.Pins.AssignmentOrder

/-! What a batch settles.
The first claim on a register is kept, and a pin is disputed where two signals are routed out to it.
One pass over the batch keeps its selectors by register and its claims by pin; for every prefix of
the batch both are what the prefix alone would settle. -/
namespace ConfigWords

namespace Routing

theorem contains_firstSelectors_iff {resolved : List Resolved} {register : String} :
    (firstSelectors resolved).contains register = true ↔ register ∈ resolved.map (·.register) := by
  rw [OrderedMap.contains_eq_true_iff, mem_keys_firstSelectors_iff]

theorem keys_firstSelectors (resolved : List Resolved) :
    (firstSelectors resolved).keys = distinct (resolved.map (·.register)) := by
  induction resolved using List.reverseRecOn with
  | nil => rfl
  | append_singleton before x ih =>
    have step : firstSelectors (before ++ [x]) =
        if (firstSelectors before).contains x.register then firstSelectors before
        else (firstSelectors before).insert x.register x.selector := List.foldl_concat ..
    rw [step, List.map_append, List.map_singleton, distinct_concat, ← ih]
    by_cases claimed : (firstSelectors before).contains x.register = true
    · rw [if_pos claimed, if_pos (contains_firstSelectors_iff.1 claimed)]
    · rw [if_neg claimed, if_neg (mt contains_firstSelectors_iff.2 claimed), OrderedMap.keys_insert,
        if_neg claimed]

/-- The outputs of a batch by pin, the pins where they are first claimed. -/
def grouped (outputs : List Resolved) : List (String × List Resolved) :=
  (distinct (outputs.map (·.assignment.pin))).map fun pin => (pin, claims outputs pin)

theorem mem_grouped_iff {outputs : List Resolved} {e : String × List Resolved} :
    e ∈ grouped outputs ↔ e.1 ∈ outputs.map (·.assignment.pin) ∧ claims outputs e.1 = e.2 := by
  simp only [grouped, List.mem_map (b := e), mem_distinct]
  constructor
  · rintro ⟨pin, member, rfl⟩
    exact ⟨member, rfl⟩
  · rintro ⟨member, same⟩
    exact ⟨e.1, member, Prod.ext rfl same⟩

theorem claims_eq_nil_iff {outputs : List Resolved} {pin : String} :
    claims outputs pin = [] ↔ pin ∉ outputs.map (·.assignment.pin) := by
  simp [claims, List.filter_eq_nil_iff]

theorem claims_concat (outputs : List Resolved) (x : Resolved) (pin : String) :
    claims (outputs ++ [x]) pin =
      if pin == x.assignment.pin then claims outputs pin ++ [x] else claims outputs pin := by
  by_cases same : pin = x.assignment.pin
  · simp [claims, same]
  · simp [claims, same, Ne.symm same]

theorem grouped_concat (outputs : List Resolved) (x : Resolved) :
    grouped (outputs ++ [x]) =
      OrderedMap.put x.assignment.pin (claims outputs x.assignment.pin ++ [x])
        (grouped outputs) := by
  have step (pin : String) : (pin, claims (outputs ++ [x]) pin) =
      (pin, if pin == x.assignment.pin then claims outputs x.assignment.pin ++ [x]
        else claims outputs pin) := by
    rw [claims_concat]
    by_cases same : pin = x.assignment.pin
    · rw [same]
    · simp [same]
  rw [grouped, List.map_append, List.map_singleton, distinct_concat]
  by_cases known : x.assignment.pin ∈ outputs.map (·.assignment.pin)
  · have apart : (grouped outputs).Pairwise fun a b => (a.1 == b.1) = false := by
      rw [grouped, List.pairwise_map]
      exact (nodup_distinct _).imp fun other => by simpa using other
    have present : (grouped outputs).any (fun e => e.1 == x.assignment.pin) = true := by
      simpa [grouped, mem_distinct] using known
    rw [if_pos known, OrderedMap.put_of_present apart present, grouped, List.map_map]
    exact List.map_congr_left fun pin _ => step pin
  · have fresh : ∀ e ∈ grouped outputs, (e.1 == x.assignment.pin) = false := by
      intro e member
      rw [beq_eq_false_iff_ne]
      intro same
      exact known (same ▸ (mem_grouped_iff.1 member).1)
    rw [if_neg known, OrderedMap.put_of_fresh fresh, List.map_append, grouped]
    congr 1
    · refine List.map_congr_left fun pin member => (step pin).trans ?_
      have other : pin ≠ x.assignment.pin := by
        rintro rfl
        exact known (mem_distinct.1 member)
      simp [other]
    · simp [claims_concat]

theorem getD_of_grouped {outputs : List Resolved} {m : OrderedMap String (List Resolved)}
    (held : m.entries = grouped outputs) (pin : String) :
    (m.get? pin).getD [] = claims outputs pin := by
  cases found : m.get? pin with
  | some items =>
    have member := OrderedMap.get?_eq_some_iff.1 found
    rw [held] at member
    exact (mem_grouped_iff.1 member).2.symm
  | none =>
    refine (claims_eq_nil_iff.2 fun known => ?_).symm
    have member : (pin, claims outputs pin) ∈ m.entries :=
      held ▸ mem_grouped_iff.2 ⟨known, rfl⟩
    rw [OrderedMap.get?_of_mem member] at found
    cases found

end Routing

namespace Ledger

open Routing

theorem contenders_eq (items : List Resolved) :
    contenders items = distinct (items.map (·.assignment.signal)) := by
  rw [contenders, OrderedMap.keys_ofList, List.map_map]
  rfl

theorem conflict?_claims (outputs : List Resolved) (pin : String) :
    conflict? pin (Routing.claims outputs pin) = conflictOn outputs pin := by
  unfold conflict?
  rw [contenders_eq]
  rfl

/-! One step: what becomes of each part of the ledger. -/

section Step

variable (l : Ledger) (x : Resolved)

@[simp] theorem selectors_claim : (l.claim x).selectors = l.selectors := by
  unfold claim
  split <;> rfl

@[simp] theorem repeats_claim : (l.claim x).repeats = l.repeats := by
  unfold claim
  split <;> rfl

@[simp] theorem claims_settle : (l.settle x).claims = l.claims := by
  unfold settle
  split
  · rfl
  · split <;> rfl

theorem selectors_enter :
    (l.enter x).selectors =
      if l.selectors.contains x.register then l.selectors
      else l.selectors.insert x.register x.selector := by
  rw [enter, settle, selectors_claim, OrderedMap.contains_eq_isSome]
  cases l.selectors.get? x.register with
  | none => rfl
  | some _ =>
    dsimp only
    split <;> simp

end Step

variable (items : List Resolved)

theorem selectors_run (l : Ledger) :
    (items.foldl enter l).selectors = items.foldl (fun m x =>
      if m.contains x.register then m else m.insert x.register x.selector) l.selectors := by
  induction items generalizing l with
  | nil => rfl
  | cons x rest ih => rw [List.foldl_cons, List.foldl_cons, ih, selectors_enter]

theorem repeats_run (l : Ledger) :
    (items.foldl enter l).repeats = l.repeats ++ repeatedInputs l.selectors items := by
  induction items generalizing l with
  | nil => simp [repeatedInputs]
  | cons x rest ih =>
    rw [List.foldl_cons, ih, selectors_enter, enter, settle, selectors_claim, repeatedInputs,
      OrderedMap.contains_eq_isSome]
    cases l.selectors.get? x.register with
    | none => simp
    | some kept =>
      by_cases reads : x.assignment.direction = .input
      · simp [reads]
      · simp [reads]

theorem claims_enter {l : Ledger} {outputs : List Resolved}
    (held : l.claims.entries = grouped outputs) (x : Resolved) :
    (l.enter x).claims.entries =
      grouped (outputs ++ [x].filter fun x => x.assignment.direction == .output) := by
  rw [enter, claims_settle, claim]
  cases direction : x.assignment.direction with
  | input => simpa [direction] using held
  | output =>
    simp only [if_true, getD_of_grouped held]
    rw [List.filter_cons_of_pos (by simp [direction]), List.filter_nil, grouped_concat, ← held]
    rfl

theorem claims_run {l : Ledger} {outputs : List Resolved}
    (held : l.claims.entries = grouped outputs) :
    (items.foldl enter l).claims.entries =
      grouped (outputs ++ items.filter fun x => x.assignment.direction == .output) := by
  induction items generalizing l outputs with
  | nil => simpa using held
  | cons x rest ih =>
    rw [List.foldl_cons, ih (claims_enter held x), List.append_assoc, ← List.filter_append]
    rfl

/-- The ledger has the selectors, the conflicts and the repeated inputs of the routing. -/
structure Records (l : Ledger) (r : Routing) : Prop where
  selectors : l.selectors = r.selectors
  conflicts : l.conflicts = r.conflicts
  repeats : l.repeats = r.repeats

theorem records_route (t : PinTables) (assignments : List Assignment) (package : Option Int) :
    (ofResolved (t.route assignments package).resolved).Records (t.route assignments package) := by
  have start : empty.claims.entries = grouped [] := rfl
  refine ⟨selectors_run _ empty, ?_, repeats_run _ empty⟩
  rw [conflicts, ofResolved, claims_run _ start, grouped, List.filterMap_map]
  exact List.filterMap_congr fun pin _ => conflict?_claims _ pin

end Ledger

namespace Routing

/-- Two signals are routed out to the pin. -/
def Disputed (r : Routing) (pin : String) : Prop :=
  ∃ x ∈ r.outputs, ∃ y ∈ r.outputs, x.assignment.pin = pin ∧ y.assignment.pin = pin ∧
    y.assignment.signal ≠ x.assignment.signal

/-- What a routing writes and reports, told by its resolved assignments: the first selector of every
register, and one conflict for every disputed pin, in the order in which they were first claimed. -/
structure Settled (t : PinTables) (r : Routing) : Prop where
  registers : r.selectors.keys = (r.resolved.map (·.register)).eraseDups
  selectors : ∀ register, r.selectors.get? register =
    (r.resolved.find? fun x => x.register == register).map (·.selector)
  conflict_pins : (r.conflicts.map (·.pin)).Sublist (r.outputs.map (·.assignment.pin)).eraseDups
  disputed : ∀ pin, pin ∈ r.conflicts.map (·.pin) ↔ r.Disputed pin
  signals : ∀ c ∈ r.conflicts, c.signals =
    ((r.outputs.filter fun x => x.assignment.pin == c.pin).map (·.assignment.signal)).eraseDups
  register : ∀ c ∈ r.conflicts, ∃ p, t.output? c.pin = some p ∧ c.register = p.register
  clean : r.clean = true ↔ r.refused = [] ∧ ∀ pin, ¬ r.Disputed pin

section Conflicts

variable {outputs : List Resolved} {c : PinConflict}

theorem exists_claim_of_conflict (member : c ∈ conflictsOf outputs) :
    (∃ x ∈ outputs, x.assignment.pin = c.pin ∧ x.register = c.register ∧
      x.assignment.signal ∈ c.signals) ∧
    c.signals = distinct ((claims outputs c.pin).map (·.assignment.signal)) := by
  obtain ⟨first, rest, claimed, _, register, _, named⟩ :=
    conflictOn_eq_some_iff.1 (mem_conflictsOf_iff.1 member)
  have head : first ∈ claims outputs c.pin := claimed ▸ List.mem_cons_self
  obtain ⟨present, pin⟩ := mem_claims_iff.1 head
  refine ⟨⟨first, present, pin, register.symm, ?_⟩, named⟩
  rw [named, mem_distinct]
  exact List.mem_map_of_mem head

end Conflicts
end Routing

namespace PinTables

open Routing

variable {t : PinTables} {assignments : List Assignment} {package : Option Int}

theorem disputed_iff (pin : String) :
    pin ∈ (t.route assignments package).conflicts.map (·.pin) ↔
      (t.route assignments package).Disputed pin := by
  constructor
  · intro listed
    obtain ⟨c, member, rfl⟩ := List.mem_map.1 listed
    obtain ⟨⟨x, present, pin, _, named⟩, _⟩ := exists_claim_of_conflict member
    obtain ⟨y, other, shared, different⟩ :=
      (exists_conflict_iff present).1 ⟨c, member, pin.symm, named⟩
    exact ⟨x, present, y, other, pin, shared.trans pin, different⟩
  · rintro ⟨x, present, y, other, rfl, shared, different⟩
    obtain ⟨c, member, pin, _⟩ := (exists_conflict_iff present).2 ⟨y, other, shared, different⟩
    exact List.mem_map.2 ⟨c, member, pin⟩

theorem clean_iff (r : Routing) (disputed : ∀ pin, pin ∈ r.conflicts.map (·.pin) ↔ r.Disputed pin) :
    r.clean = true ↔ r.refused = [] ∧ ∀ pin, ¬ r.Disputed pin := by
  have quiet : r.conflicts = [] ↔ ∀ pin, ¬ r.Disputed pin := by
    simp only [← disputed, ← List.eq_nil_iff_forall_not_mem, List.map_eq_nil_iff]
  rw [← quiet, Routing.clean, Bool.and_eq_true, List.isEmpty_iff, List.isEmpty_iff, and_comm]

/-- One pass over the resolved assignments gives the routing, and the routing keeps the first claim
on every register and reports exactly the disputed pins. It is what comes back, unless a refusal
names too long a number. -/
theorem settled_route (t : PinTables) (assignments : List Assignment) (package : Option Int) :
    (Ledger.ofResolved (t.route assignments package).resolved).Records
      (t.route assignments package) ∧ (t.route assignments package).Settled t ∧
      ∀ r, (t.route assignments package).written = .ok r ↔
        r = t.route assignments package ∧ t.Told package assignments := by
  refine ⟨Ledger.records_route t assignments package, ?_, fun _ => written_route_eq_ok_iff⟩
  constructor
  case registers => exact (keys_firstSelectors _).trans (distinct_eq_eraseDups _)
  case selectors => exact get?_selectors_route
  case conflict_pins =>
    rw [← distinct_eq_eraseDups]
    exact map_pin_conflictsOf ▸ List.filter_sublist
  case disputed => exact disputed_iff
  case signals =>
    intro c member
    rw [← distinct_eq_eraseDups]
    exact (exists_claim_of_conflict member).2
  case register =>
    intro c member
    obtain ⟨⟨x, present, pin, register, _⟩, _⟩ := exists_claim_of_conflict member
    rw [← pin, ← register]
    exact exists_output?_of_mem present
  case clean => exact clean_iff _ disputed_iff

end PinTables
end ConfigWords
