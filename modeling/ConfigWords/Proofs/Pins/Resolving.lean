import ConfigWords.Pins.Routing
import ConfigWords.Proofs.Outcome

/-! How one assignment is resolved.
The tables give its register and its selector, and the package is asked last. An assignment is
resolved on its own, so what a batch resolves is what its members resolve. -/
namespace ConfigWords.PinTables

variable {t : PinTables} {a : Assignment} {package : Option Int} {x : Resolved}

/-- The package has at least so many pins, or any package will do. -/
def Fits (package : Option Int) (pins : Int) : Prop := ∀ size, package = some size → pins ≤ size

theorem checkPackage_eq_ok_iff {u : Unit} :
    t.checkPackage a package = .ok u ↔ Fits package (t.minPinCount a.pin) := by
  unfold checkPackage Fits
  cases package with
  | none => simp
  | some size =>
    by_cases larger : t.minPinCount a.pin > size
    · simp [larger]
    · simp [larger, Int.not_lt.1 larger]

theorem resolveInput_eq_ok_iff :
    t.resolveInput a package = .ok x ↔
      ∃ s g e, t.input? a.signal = some s ∧ t.group? s.group = some g ∧
        g.entry? a.pin = some e ∧ e.selector ∈ s.selectors ∧
        Fits package (t.minPinCount a.pin) ∧ x = ⟨a, s.register, e.selector⟩ := by
  unfold resolveInput
  constructor
  · intro resolved
    split at resolved
    · cases resolved
    · rename_i s known
      split at resolved
      · cases resolved
      · rename_i e placed
        obtain ⟨g, grouped, first⟩ := Option.bind_eq_some_iff.1 placed
        split at resolved
        · rename_i accepted
          obtain ⟨_, fits, done⟩ := bind_eq_ok.1 resolved
          cases pure_eq_ok.1 done
          exact ⟨s, g, e, known, grouped, first, accepted, checkPackage_eq_ok_iff.1 fits, rfl⟩
        · cases resolved
  · rintro ⟨s, g, e, known, grouped, first, accepted, fits, rfl⟩
    have placed : ((t.group? s.group).bind fun g => g.entry? a.pin) = some e :=
      Option.bind_eq_some_iff.2 ⟨g, grouped, first⟩
    simp only [known, placed, accepted, if_true]
    exact bind_eq_ok.2 ⟨(), checkPackage_eq_ok_iff.2 fits, rfl⟩

theorem resolveOutput_eq_ok_iff :
    t.resolveOutput a package = .ok x ↔
      ∃ p o, t.output? a.pin = some p ∧ p.output? a.signal = some o ∧
        Fits package (t.minPinCount a.pin) ∧ x = ⟨a, p.register, o.selector⟩ := by
  unfold resolveOutput
  constructor
  · intro resolved
    split at resolved
    · cases resolved
    · rename_i p known
      split at resolved
      · cases resolved
      · rename_i o driven
        obtain ⟨_, fits, done⟩ := bind_eq_ok.1 resolved
        cases pure_eq_ok.1 done
        exact ⟨p, o, known, driven, checkPackage_eq_ok_iff.1 fits, rfl⟩
  · rintro ⟨p, o, known, driven, fits, rfl⟩
    simp only [known, driven]
    exact bind_eq_ok.2 ⟨(), checkPackage_eq_ok_iff.2 fits, rfl⟩

theorem assignment_of_resolve (resolved : t.resolve package a = .ok x) : x.assignment = a := by
  unfold resolve at resolved
  split at resolved
  · obtain ⟨_, _, _, _, _, _, _, _, rfl⟩ := resolveInput_eq_ok_iff.1 resolved
    rfl
  · obtain ⟨_, _, _, _, _, rfl⟩ := resolveOutput_eq_ok_iff.1 resolved
    rfl

theorem mem_resolved_iff {assignments : List Assignment} :
    x ∈ (t.route assignments package).resolved ↔
      ∃ a ∈ assignments, t.resolve package a = .ok x := by
  simp only [route, List.mem_filterMap, List.mem_map, exists_exists_and_eq_and]
  refine exists_congr fun a => and_congr_right fun _ => ?_
  cases t.resolve package a <;> simp [Except.toOption]

theorem refused_single_eq_nil_iff :
    (t.route [a] package).refused = [] ↔ ∃ x, t.resolve package a = .ok x := by
  cases outcome : t.resolve package a <;> simp [route, outcome]

end ConfigWords.PinTables
