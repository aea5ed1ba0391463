import ConfigWords.Proofs.Pins.FirstClaims
import ConfigWords.Proofs.Render.FirstWrites

/-! Batches of assignments put together.
Assignments are resolved one by one, so of two batches in a row each gives what it gives alone: the
second fills the registers that the first has left free, and joins the claims on its pins. A refused
assignment leaves no trace but its refusal. All this is lost only where a refusal names a number that
is too long to be written. -/
namespace ConfigWords

/-- Every assignment in its turn is resolved or refused, and not both. -/
inductive Lands : List Assignment → List Resolved → List Refused → Prop
  | nil : Lands [] [] []
  | resolved {assignments : List Assignment} {resolved : List Resolved} {refused : List Refused}
      (x : Resolved) (later : Lands assignments resolved refused) :
      Lands (x.assignment :: assignments) (x :: resolved) refused
  | refused {assignments : List Assignment} {resolved : List Resolved} {refused : List Refused}
      (r : Refused) (later : Lands assignments resolved refused) :
      Lands (r.assignment :: assignments) resolved (r :: refused)

namespace Routing

def contenders (r : Routing) (pin : String) : List String :=
  ((r.outputs.filter fun x => x.assignment.pin == pin).map (·.assignment.signal)).eraseDups

/-- One routing behind another: its selectors where the registers are free, and its claims behind
those of the other. No conflict is settled by it. -/
structure Joins (first second joint : Routing) : Prop where
  resolved : joint.resolved = first.resolved ++ second.resolved
  refused : joint.refused = first.refused ++ second.refused
  selectors : joint.selectors.entries = first.selectors.entries ++
    second.selectors.entries.filter fun e => !first.selectors.contains e.1
  conflict_pins : ∀ c, c ∈ first.conflicts ∨ c ∈ second.conflicts →
    ∃ d ∈ joint.conflicts, d.pin = c.pin
  signals : ∀ c ∈ joint.conflicts, c.signals = first.contenders c.pin ++
    (second.contenders c.pin).filter fun signal => !(first.contenders c.pin).contains signal

theorem entries_firstSelectors_append (resolved others : List Resolved) :
    (firstSelectors (resolved ++ others)).entries = (firstSelectors resolved).entries ++
      (firstSelectors others).entries.filter fun e =>
        !(firstSelectors resolved).contains e.1 := by
  have later : firstSelectors (resolved ++ others) = others.foldl (fun m x =>
      if m.contains x.register then m else m.insert x.register x.selector)
        (firstSelectors resolved) := List.foldl_append
  rw [later, Render.entries_settle, Render.entries_firstSelectors others, List.filter_map]
  rfl

theorem contenders_eq (r : Routing) (pin : String) :
    r.contenders pin = distinct ((claims r.outputs pin).map (·.assignment.signal)) :=
  (distinct_eq_eraseDups _).symm

theorem Disputed.mono {r s : Routing} {pin : String} (more : r.outputs ⊆ s.outputs)
    (disputed : r.Disputed pin) : s.Disputed pin := by
  obtain ⟨x, first, y, second, here, there, different⟩ := disputed
  exact ⟨x, more first, y, more second, here, there, different⟩

end Routing

namespace PinTables

open Routing

variable {t : PinTables} {package : Option Int} {xs ys assignments : List Assignment}

theorem resolved_append :
    (t.route (xs ++ ys) package).resolved =
      (t.route xs package).resolved ++ (t.route ys package).resolved := by
  simp only [route, List.map_append, List.filterMap_append]

theorem refused_append :
    (t.route (xs ++ ys) package).refused =
      (t.route xs package).refused ++ (t.route ys package).refused := by
  simp only [route, List.map_append, List.filterMap_append]

theorem outputs_append :
    (t.route (xs ++ ys) package).outputs =
      (t.route xs package).outputs ++ (t.route ys package).outputs := by
  rw [Routing.outputs, resolved_append, List.filter_append]
  rfl

theorem joins_route (t : PinTables) (package : Option Int) (xs ys : List Assignment) :
    (t.route xs package).Joins (t.route ys package) (t.route (xs ++ ys) package) := by
  constructor
  case resolved => exact resolved_append
  case refused => exact refused_append
  case selectors =>
    have whole : (t.route (xs ++ ys) package).selectors =
        firstSelectors ((t.route xs package).resolved ++ (t.route ys package).resolved) :=
      congrArg firstSelectors resolved_append
    rw [whole]
    exact entries_firstSelectors_append _ _
  case conflict_pins =>
    intro c member
    have disputed : (t.route (xs ++ ys) package).Disputed c.pin := by
      rcases member with first | second
      · refine ((disputed_iff c.pin).1 (List.mem_map_of_mem first)).mono ?_
        exact outputs_append (t := t) ▸ List.subset_append_left _ _
      · refine ((disputed_iff c.pin).1 (List.mem_map_of_mem second)).mono ?_
        exact outputs_append (t := t) ▸ List.subset_append_right _ _
    exact List.mem_map.1 ((disputed_iff c.pin).2 disputed)
  case signals =>
    intro c member
    obtain ⟨_, named⟩ := exists_claim_of_conflict member
    have both : claims (t.route (xs ++ ys) package).outputs c.pin =
        claims (t.route xs package).outputs c.pin ++
          claims (t.route ys package).outputs c.pin := by
      rw [outputs_append, claims, List.filter_append]
      rfl
    calc c.signals
        = distinct ((claims (t.route (xs ++ ys) package).outputs c.pin).map
            (·.assignment.signal)) := named
      _ = _ := by
        rw [both, List.map_append, distinct_append, contenders_eq, contenders_eq]
        simp only [contains_distinct]

theorem lands_route (t : PinTables) (package : Option Int) (assignments : List Assignment) :
    Lands assignments (t.route assignments package).resolved
      (t.route assignments package).refused := by
  induction assignments with
  | nil => exact .nil
  | cons a rest ih =>
    have split : a :: rest = [a] ++ rest := rfl
    rw [split, resolved_append, refused_append]
    cases outcome : t.resolve package a with
    | ok x =>
      have one : (t.route [a] package).resolved = [x] ∧ (t.route [a] package).refused = [] := by
        simp [route, outcome, Except.toOption]
      rw [one.1, one.2, ← assignment_of_resolve outcome]
      exact .resolved x ih
    | error r =>
      have one : (t.route [a] package).resolved = [] ∧ (t.route [a] package).refused = [r] := by
        simp [route, outcome, Except.toOption]
      rw [one.1, one.2, ← (resolve_eq_error_iff.1 outcome).1]
      exact .refused r ih

def routable (t : PinTables) (package : Option Int) (assignments : List Assignment) :
    List Assignment :=
  assignments.filter fun a =>
    !((t.route assignments package).refused.map (·.assignment)).contains a

theorem mem_map_refused_iff {a : Assignment} :
    a ∈ (t.route assignments package).refused.map (·.assignment) ↔
      a ∈ assignments ∧ ∃ r, t.resolve package a = .error r := by
  simp only [List.mem_map, mem_refused_iff]
  constructor
  · rintro ⟨r, ⟨b, member, stopped⟩, own⟩
    have same : b = a := (resolve_eq_error_iff.1 stopped).1.symm.trans own
    exact ⟨same ▸ member, r, same ▸ stopped⟩
  · rintro ⟨member, r, stopped⟩
    exact ⟨r, ⟨a, member, stopped⟩, (resolve_eq_error_iff.1 stopped).1⟩

theorem resolved_routable :
    (t.route (t.routable package assignments) package).resolved =
      (t.route assignments package).resolved := by
  have each (a : Assignment) (member : a ∈ assignments) :
      (if (!((t.route assignments package).refused.map (·.assignment)).contains a) = true
        then (t.resolve package a).toOption else none) = (t.resolve package a).toOption := by
    by_cases refused : a ∈ (t.route assignments package).refused.map (·.assignment)
    · obtain ⟨_, r, stopped⟩ := mem_map_refused_iff.1 refused
      simp [stopped, Except.toOption]
    · simp [refused]
  simp only [route, List.filterMap_map]
  rw [routable, List.filterMap_filter]
  exact List.filterMap_congr each

theorem settled_congr {others : List Assignment}
    (same : (t.route assignments package).resolved = (t.route others package).resolved) :
    (t.route assignments package).selectors = (t.route others package).selectors ∧
      (t.route assignments package).conflicts = (t.route others package).conflicts := by
  refine ⟨congrArg firstSelectors same, congrArg conflictsOf ?_⟩
  exact congrArg (List.filter fun x => x.assignment.direction == .output) same

theorem refused_routable :
    (t.route (t.routable package assignments) package).refused = [] := by
  rw [List.eq_nil_iff_forall_not_mem]
  intro r refused
  obtain ⟨a, kept, stopped⟩ := mem_refused_iff.1 refused
  obtain ⟨member, passed⟩ := List.mem_filter.1 kept
  have listed := mem_map_refused_iff.2 ⟨member, r, stopped⟩
  rw [List.contains_iff_mem.2 listed] at passed
  cases passed

theorem apart_route {x : Resolved} {r : Refused}
    (first : x ∈ (t.route assignments package).resolved)
    (second : r ∈ (t.route assignments package).refused) : x.assignment ≠ r.assignment := by
  intro same
  obtain ⟨a, _, done⟩ := mem_resolved_iff.1 first
  obtain ⟨b, _, stopped⟩ := mem_refused_iff.1 second
  rw [assignment_of_resolve done, (resolve_eq_error_iff.1 stopped).1] at same
  rw [same, stopped] at done
  cases done

/-- A batch of two parts is answered, and its answer is put together of those to the parts. Each
assignment lands once, and without the refused ones all else stays as it is. -/
structure Composes (t : PinTables) (package : Option Int) (xs ys : List Assignment)
    (first second joint : Routing) : Prop where
  first_answered : (t.route xs package).written = .ok first
  second_answered : (t.route ys package).written = .ok second
  answered : (t.route (xs ++ ys) package).written = .ok joint
  joins : first.Joins second joint
  lands : Lands (xs ++ ys) joint.resolved joint.refused
  once : ∀ x ∈ joint.resolved, ∀ r ∈ joint.refused, x.assignment ≠ r.assignment
  rest : ∃ r, (t.route (t.routable package (xs ++ ys)) package).written = .ok r ∧
    r.refused = [] ∧ r.resolved = joint.resolved ∧ r.selectors = joint.selectors ∧
    r.conflicts = joint.conflicts

/-- Two batches compose, unless an assignment is refused for a reason that cannot be written. So all
batches on all packages compose if and only if the tables are speakable. -/
theorem composes_iff (t : PinTables) :
    (∀ package xs ys, (∃ first second joint, t.Composes package xs ys first second joint) ↔
      ∀ a ∈ xs ++ ys, ∀ refusal, t.Refuses package a refusal → refusal.writable = true) ∧
    ((∀ package xs ys, ∃ first second joint, t.Composes package xs ys first second joint) ↔
      t.Speakable) := by
  have each (package : Option Int) (xs ys : List Assignment) :
      (∃ first second joint, t.Composes package xs ys first second joint) ↔
        ∀ a ∈ xs ++ ys, ∀ refusal, t.Refuses package a refusal → refusal.writable = true := by
    constructor
    · rintro ⟨_, _, joint, composes⟩
      have answered := composes.answered
      rw [Routing.eq_of_written answered] at answered
      exact written_route_iff.1 answered
    · intro writable
      obtain ⟨first, second⟩ := List.forall_mem_append.1 writable
      have kept : (t.route (t.routable package (xs ++ ys)) package).written = .ok _ :=
        Routing.written_eq_ok_iff.2 fun r refused => by
          rw [refused_routable] at refused
          cases refused
      have resolved : (t.route (t.routable package (xs ++ ys)) package).resolved =
          (t.route (xs ++ ys) package).resolved := resolved_routable
      exact ⟨_, _, _, {
        first_answered := written_route_iff.2 first
        second_answered := written_route_iff.2 second
        answered := written_route_iff.2 writable
        joins := joins_route t package xs ys
        lands := lands_route t package (xs ++ ys)
        once := fun _ done _ stopped => apart_route done stopped
        rest := ⟨_, kept, refused_routable, resolved, settled_congr resolved⟩ }⟩
  refine ⟨each, ?_⟩
  simp only [each, ← written_route_forall_iff, written_route_iff]
  constructor
  · intro all assignments package
    exact List.append_nil assignments ▸ all package assignments []
  · intro all package xs ys
    exact all (xs ++ ys) package

/-! A refusal that names a package of one digit too many. -/

def hugeGroup : PinGroup := ⟨1, [⟨0, "RPD2", Numeral.writeBound⟩, ⟨1, "RPG8", 64⟩]⟩

def hugeInput : InputSignal :=
  { signal := "INT1", register := "INT1R", group := 1, selectors := [0, 1] }

/-- The good assignment is answered alone, and lost together with the refused one. -/
theorem batch_lost :
    ∃ t r, build [hugeGroup] [hugeInput] [] = .ok t ∧
      (t.route [⟨"INT1", "RPG8", .input⟩] (some 64)).written = .ok r ∧
      r.selectors.entries = [("INT1R", 1)] ∧
      (t.route [⟨"INT1", "RPG8", .input⟩, ⟨"INT1", "RPD2", .input⟩] (some 64)).written =
        .error .unwritable ∧
      ¬ ∃ first second joint, t.Composes (some 64) [⟨"INT1", "RPG8", .input⟩]
        [⟨"INT1", "RPD2", .input⟩] first second joint := by
  refine ⟨_, _, rfl, rfl, rfl, rfl, ?_⟩
  rintro ⟨_, _, _, composes⟩
  have answered := composes.answered
  cases answered

end PinTables
end ConfigWords
