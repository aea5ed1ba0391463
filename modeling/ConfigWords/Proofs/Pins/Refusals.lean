import ConfigWords.Proofs.OrderedMap
import ConfigWords.Proofs.Pins.Resolving
import Mathlib.Data.Set.Finite.Basic

/-! Why an assignment is refused.
Three of the reasons name a number of the tables. A batch is put in words unless one of them names
a number that is too long; whether any batch meets one is decided by the tables alone. -/
namespace ConfigWords

theorem Routing.written_eq_ok_iff {r : Routing} :
    r.written = .ok r ↔ ∀ x ∈ r.refused, x.refusal.writable = true := by
  unfold written
  split
  · simp_all
  · simp_all

theorem Routing.eq_of_written {r s : Routing} (written : r.written = .ok s) : s = r := by
  unfold Routing.written at written
  split at written
  · exact (Except.ok.inj written).symm
  · cases written

namespace PinTables

variable {t : PinTables} {package : Option Int} {a : Assignment} {r : Refused}

/-- The register of the signal accepts the selector of the pin. -/
def Accepts (t : PinTables) (s : InputSignal) (pin : String) : Prop :=
  ∃ g e, t.group? s.group = some g ∧ g.entry? pin = some e ∧ e.selector ∈ s.selectors

/-- What an assignment is refused for. The package is asked only where any other would do. -/
inductive Refuses (t : PinTables) (package : Option Int) (a : Assignment) : Refusal → Prop
  | unknownInput (reads : a.direction = .input) (unknown : t.input? a.signal = none) :
      Refuses t package a .unknownInput
  | notInGroup {s : InputSignal} (reads : a.direction = .input)
      (known : t.input? a.signal = some s) (outside : ¬ t.Accepts s a.pin) :
      Refuses t package a (.notInGroup s.group)
  | notRemappable (drives : a.direction = .output) (unknown : t.output? a.pin = none) :
      Refuses t package a .notRemappable
  | notSelectable {p : OutputPin} (drives : a.direction = .output)
      (known : t.output? a.pin = some p) (missing : p.output? a.signal = none) :
      Refuses t package a (.notSelectable p.group)
  | largerPackage {x : Resolved} {size : Int} (routable : t.resolve none a = .ok x)
      (given : package = some size) (larger : size < t.minPinCount a.pin) :
      Refuses t package a (.largerPackage (t.minPinCount a.pin))

theorem checkPackage_eq_error_iff :
    t.checkPackage a package = .error r ↔ ∃ size, package = some size ∧
      size < t.minPinCount a.pin ∧ ⟨a, .largerPackage (t.minPinCount a.pin)⟩ = r := by
  unfold checkPackage
  cases package with
  | none => simp
  | some size =>
    by_cases larger : t.minPinCount a.pin > size
    · simp [larger]
    · simp [larger]

theorem resolve_eq_bind (t : PinTables) (package : Option Int) (a : Assignment) :
    t.resolve package a = (do
      let x ← t.resolve none a
      t.checkPackage a package
      return x) := by
  unfold resolve
  split
  · unfold resolveInput
    split
    · rfl
    · split
      · rfl
      · split
        · rfl
        · rfl
  · unfold resolveOutput
    split
    · rfl
    · split
      · rfl
      · rfl

theorem accepts_iff {s : InputSignal} {pin : String} :
    t.Accepts s pin ↔
      ∃ e, ((t.group? s.group).bind fun g => g.entry? pin) = some e ∧ e.selector ∈ s.selectors := by
  simp only [Accepts, Option.bind_eq_some_iff]
  constructor
  · rintro ⟨g, e, grouped, placed, accepted⟩
    exact ⟨e, ⟨g, grouped, placed⟩, accepted⟩
  · rintro ⟨e, ⟨g, grouped, placed⟩, accepted⟩
    exact ⟨g, e, grouped, placed, accepted⟩

theorem resolveInput_none_eq_error_iff :
    t.resolveInput a none = .error r ↔
      (t.input? a.signal = none ∧ ⟨a, .unknownInput⟩ = r) ∨
        ∃ s, t.input? a.signal = some s ∧ ¬ t.Accepts s a.pin ∧ ⟨a, .notInGroup s.group⟩ = r := by
  unfold resolveInput
  cases known : t.input? a.signal with
  | none => simp
  | some s =>
    cases placed : (t.group? s.group).bind fun g => g.entry? a.pin with
    | none => simp [accepts_iff, placed]
    | some e =>
      by_cases accepted : e.selector ∈ s.selectors
      · simp [accepts_iff, placed, accepted, checkPackage, bind, Except.bind, pure, Except.pure]
      · simp [accepts_iff, placed, accepted]

theorem resolveOutput_none_eq_error_iff :
    t.resolveOutput a none = .error r ↔
      (t.output? a.pin = none ∧ ⟨a, .notRemappable⟩ = r) ∨
        ∃ p, t.output? a.pin = some p ∧ p.output? a.signal = none ∧
          ⟨a, .notSelectable p.group⟩ = r := by
  unfold resolveOutput
  cases known : t.output? a.pin with
  | none => simp
  | some p =>
    cases driven : p.output? a.signal with
    | none => simp [driven]
    | some o => simp [driven, checkPackage, bind, Except.bind, pure, Except.pure]

theorem resolve_eq_error_iff :
    t.resolve package a = .error r ↔ r.assignment = a ∧ t.Refuses package a r.refusal := by
  -- On any package the tables alone refuse; the package refuses only what they let pass.
  rw [resolve_eq_bind]
  simp only [bind_eq_error, checkPackage_eq_error_iff]
  constructor
  · rintro (stop | ⟨x, routable, ⟨size, given, larger, rfl⟩ | ⟨_, _, done⟩⟩)
    · unfold resolve at stop
      split at stop
      · rename_i reads
        rcases resolveInput_none_eq_error_iff.1 stop with ⟨unknown, rfl⟩ | ⟨s, known, outside, rfl⟩
        · exact ⟨rfl, .unknownInput reads unknown⟩
        · exact ⟨rfl, .notInGroup reads known outside⟩
      · rename_i drives
        rcases resolveOutput_none_eq_error_iff.1 stop with ⟨unknown, rfl⟩ | ⟨p, known, missing, rfl⟩
        · exact ⟨rfl, .notRemappable drives unknown⟩
        · exact ⟨rfl, .notSelectable drives known missing⟩
    · exact ⟨rfl, .largerPackage routable given larger⟩
    · cases done
  · rintro ⟨rfl, refused⟩
    generalize outcome : r.refusal = refusal at refused
    have whole : ⟨r.assignment, refusal⟩ = r := outcome ▸ rfl
    cases refused with
    | unknownInput reads unknown =>
      left
      rw [resolve, reads]
      exact resolveInput_none_eq_error_iff.2 (.inl ⟨unknown, whole⟩)
    | notInGroup reads known outside =>
      left
      rw [resolve, reads]
      exact resolveInput_none_eq_error_iff.2 (.inr ⟨_, known, outside, whole⟩)
    | notRemappable drives unknown =>
      left
      rw [resolve, drives]
      exact resolveOutput_none_eq_error_iff.2 (.inl ⟨unknown, whole⟩)
    | notSelectable drives known missing =>
      left
      rw [resolve, drives]
      exact resolveOutput_none_eq_error_iff.2 (.inr ⟨_, known, missing, whole⟩)
    | largerPackage routable given larger =>
      exact .inr ⟨_, routable, .inl ⟨_, given, larger, whole⟩⟩

theorem mem_refused_iff {assignments : List Assignment} :
    r ∈ (t.route assignments package).refused ↔
      ∃ a ∈ assignments, t.resolve package a = .error r := by
  simp only [route, List.mem_filterMap, List.mem_map, exists_exists_and_eq_and]
  refine exists_congr fun a => and_congr_right fun _ => ?_
  cases t.resolve package a <;> simp

/-- Nothing in the batch is refused with too long a number. -/
def Told (t : PinTables) (package : Option Int) (assignments : List Assignment) : Prop :=
  ∀ a ∈ assignments, ∀ refusal, t.Refuses package a refusal → refusal.writable = true

theorem written_route_iff {assignments : List Assignment} :
    (t.route assignments package).written = .ok (t.route assignments package) ↔
      t.Told package assignments := by
  simp only [Routing.written_eq_ok_iff, mem_refused_iff, resolve_eq_error_iff]
  constructor
  · intro all a member refusal refused
    exact all ⟨a, refusal⟩ ⟨a, member, rfl, refused⟩
  · rintro all r ⟨a, member, rfl, refused⟩
    exact all _ member r.refusal refused

theorem written_route_eq_ok_iff {assignments : List Assignment} {r : Routing} :
    (t.route assignments package).written = .ok r ↔
      r = t.route assignments package ∧ t.Told package assignments := by
  rw [← written_route_iff]
  constructor
  · intro written
    have same := Routing.eq_of_written written
    exact ⟨same, same ▸ written⟩
  · rintro ⟨rfl, written⟩
    exact written

/-- The numbers that a refusal can name are short enough to be written out: the groups of the
inputs and the outputs, and the package of every pin that something can be routed to. -/
structure Speakable (t : PinTables) : Prop where
  inputs : ∀ signal s, t.input? signal = some s → Numeral.writable s.group = true
  outputs : ∀ pin p, t.output? pin = some p → Numeral.writable p.group = true
  packages : ∀ a x, t.resolve none a = .ok x → Numeral.writable (t.minPinCount a.pin) = true

theorem Speakable.refusal (speakable : t.Speakable) {refusal : Refusal}
    (refused : t.Refuses package a refusal) : refusal.writable = true := by
  cases refused with
  | unknownInput _ _ => rfl
  | notInGroup _ known _ => exact speakable.inputs _ _ known
  | notRemappable _ _ => rfl
  | notSelectable _ known _ => exact speakable.outputs _ _ known
  | largerPackage routable _ _ => exact speakable.packages _ _ routable

theorem speakable_of_short (inputs : ∀ s ∈ t.inputs.values, Numeral.writable s.group = true)
    (outputs : ∀ p ∈ t.outputs.values, Numeral.writable p.group = true)
    (pins : ∀ g ∈ t.groups.values, ∀ e ∈ g.pins, Numeral.writable e.minPins = true) :
    t.Speakable where
  inputs _ s known := inputs s (List.mem_map_of_mem (OrderedMap.get?_eq_some_iff.1 known))
  outputs _ p known := outputs p (List.mem_map_of_mem (OrderedMap.get?_eq_some_iff.1 known))
  packages a _ _ := by
    unfold minPinCount
    cases found : t.groups.values.findSome? fun g => g.entry? a.pin with
    | none => decide
    | some e =>
      obtain ⟨g, grouped, first⟩ := List.exists_of_findSome?_eq_some found
      exact pins g grouped e (List.mem_of_find?_eq_some first)

theorem exists_not_accepts (t : PinTables) (s : InputSignal) : ∃ pin, ¬ t.Accepts s pin := by
  cases grouped : t.group? s.group with
  | none =>
    refine ⟨"", ?_⟩
    rintro ⟨g, _, found, _⟩
    cases grouped.symm.trans found
  | some g =>
    obtain ⟨pin, unused⟩ := (List.finite_toSet (g.pins.map (·.pin))).exists_notMem
    refine ⟨pin, ?_⟩
    rintro ⟨_, e, found, placed, _⟩
    cases grouped.symm.trans found
    have named : e.pin = pin := by simpa using List.find?_some placed
    exact unused (List.mem_map.2 ⟨e, List.mem_of_find?_eq_some placed, named⟩)

theorem exists_not_offered (p : OutputPin) : ∃ signal, p.output? signal = none := by
  obtain ⟨signal, unused⟩ := (List.finite_toSet (p.outputs.map (·.signal))).exists_notMem
  refine ⟨signal, List.find?_eq_none.2 fun o member same => unused ?_⟩
  exact List.mem_map.2 ⟨o, member, by simpa using same⟩

/-- All batches on all packages are put in words exactly if the tables are speakable. -/
theorem written_route_forall_iff :
    (∀ assignments package,
      (t.route assignments package).written = .ok (t.route assignments package)) ↔
        t.Speakable := by
  constructor
  · intro all
    have each (package : Option Int) {a : Assignment} {refusal : Refusal}
        (refused : t.Refuses package a refusal) : refusal.writable = true :=
      written_route_iff.1 (all [a] package) a List.mem_cons_self refusal refused
    constructor
    · intro signal s known
      obtain ⟨pin, outside⟩ := t.exists_not_accepts s
      exact each none (a := ⟨signal, pin, .input⟩) (.notInGroup rfl known outside)
    · intro pin p known
      obtain ⟨signal, missing⟩ := exists_not_offered p
      exact each none (a := ⟨signal, pin, .output⟩) (.notSelectable rfl known missing)
    · intro a x routable
      exact each _ (.largerPackage routable rfl (Int.sub_one_lt_of_le (Int.le_refl _)))
  · intro speakable assignments package
    exact written_route_iff.2 fun _ _ _ refused => speakable.refusal refused

end PinTables
end ConfigWords
