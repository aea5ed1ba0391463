import ConfigWords.Layout
import ConfigWords.Proofs.OrderedMap
import Mathlib.Data.List.Pairwise

/-! Layouts that are built by additions.
An addition is taken exactly when the index is free and the field overlaps no other. So in every
layout that additions reach, a field is found under its own index and each bit belongs to one field.
Only the bits of NaN may belong to several: a look-up finds this register, but no two fields in it
agree on it, so none of them overlaps another. -/
namespace ConfigWords

namespace Field

/-- The field stands in the register and has the bit. -/
def Holds (f : Field) (register : Scalar) (b : Nat) : Prop :=
  (f.register == register) = true ∧ f.start ≤ b ∧ b < f.stop

theorem overlaps_eq_false_iff {f g : Field} :
    f.overlaps g = false ↔
      (f.register.agrees g.register = true → f.stop ≤ g.start ∨ g.stop ≤ f.start) := by
  cases same : f.register.agrees g.register <;> simp [overlaps, same]
  omega

theorem overlaps_comm (f g : Field) : f.overlaps g = g.overlaps f := by
  unfold overlaps
  rw [Scalar.agrees_comm, Bool.or_comm]

theorem holds_of_lt {f : Field} {register : Scalar} {b : Nat}
    (same : (f.register == register) = true) (inside : b < f.width) :
    f.Holds register (f.start + b) := by
  refine ⟨same, Nat.le_add_right _ _, ?_⟩
  unfold stop
  omega

theorem Holds.sub_lt {f : Field} {register : Scalar} {b : Nat} (holds : f.Holds register b) :
    b - f.start < f.width := by
  have bounds := holds.2
  unfold stop at bounds
  omega

theorem Holds.isNaN_eq {f : Field} {register : Scalar} {b : Nat} (holds : f.Holds register b) :
    f.register.isNaN = register.isNaN :=
  Scalar.isNaN_congr holds.1

theorem isNaN_of_holds {f g : Field} {register : Scalar} {b : Nat}
    (apart : f.overlaps g = false) (holds : f.Holds register b) (other : g.Holds register b) :
    register.isNaN = true := by
  by_contra named
  have same : f.register.agrees g.register = true :=
    Scalar.agrees_iff.2 ⟨BEq.trans holds.1 (BEq.symm other.1),
      holds.isNaN_eq.trans (eq_false_of_ne_true named)⟩
  have order := overlaps_eq_false_iff.1 apart same
  have first := holds.2
  have second := other.2
  omega

theorem encode?_lt {f : Field} {label : String} {value : Nat}
    (known : f.encode? label = some value) : value < Word.span f.width :=
  f.value_lt _ (OrderedMap.get?_eq_some_iff.1 known)

end Field

namespace Layout

theorem add_eq_ok_iff {layout next : Layout} {f : Field} :
    layout.add f = .ok next ↔
      layout.contains f.index = false ∧ (∀ g ∈ layout.toList, f.overlaps g = false) ∧
        next = ⟨layout.fields.insert f.index f⟩ := by
  unfold add
  cases taken : layout.fields.contains f.index with
  | true => simp [contains, taken]
  | false =>
    cases hit : layout.toList.find? fun g => f.overlaps g with
    | some g =>
      have member := List.mem_of_find?_eq_some hit
      have shared : f.overlaps g = true := by simpa using List.find?_some hit
      constructor
      · intro refused
        cases refused
      · intro free
        exact absurd (free.2.1 g member) (by simp [shared])
    | none =>
      have free : ∀ g ∈ layout.toList, f.overlaps g = false := by
        simpa using hit
      simp only [contains, taken, Bool.false_eq_true, if_false, Except.ok.injEq, true_and]
      exact ⟨fun built => ⟨free, built.symm⟩, fun built => built.2.symm⟩

/-- Every field is found under its own index, and no two fields overlap. -/
structure Sound (layout : Layout) : Prop where
  indexed : ∀ e ∈ layout.fields.entries, e.2.index = e.1
  apart : layout.toList.Pairwise fun f g => f.overlaps g = false

theorem eq_iff_entries {layout other : Layout} :
    layout = other ↔ layout.fields.entries = other.fields.entries := by
  refine ⟨fun same => same ▸ rfl, fun same => ?_⟩
  obtain ⟨fields⟩ := layout
  exact congrArg mk (OrderedMap.ext_entries same)

theorem entries_of_add {layout next : Layout} {f : Field} (added : layout.add f = .ok next) :
    next.fields.entries = layout.fields.entries ++ [(f.index, f)] := by
  obtain ⟨free, _, rfl⟩ := add_eq_ok_iff.1 added
  exact OrderedMap.entries_insert_of_fresh free

theorem toList_of_add {layout next : Layout} {f : Field} (added : layout.add f = .ok next) :
    next.toList = layout.toList ++ [f] := by
  simp [toList, OrderedMap.values, entries_of_add added]

theorem sound_empty : Sound empty := ⟨by simp [empty, OrderedMap.empty], List.Pairwise.nil⟩

theorem Sound.add {layout next : Layout} {f : Field} (sound : layout.Sound)
    (added : layout.add f = .ok next) : next.Sound := by
  constructor
  · intro e member
    rw [entries_of_add added] at member
    rcases List.mem_append.1 member with old | new
    · exact sound.indexed e old
    · cases List.mem_singleton.1 new
      rfl
  · rw [toList_of_add added]
    refine List.pairwise_append.2 ⟨sound.apart, List.pairwise_singleton _ _, ?_⟩
    intro g member h new
    cases List.mem_singleton.1 new
    rw [Field.overlaps_comm]
    exact (add_eq_ok_iff.1 added).2.1 g member

theorem Reachable.sound {layout : Layout} (reachable : layout.Reachable) : layout.Sound := by
  induction reachable with
  | empty => exact sound_empty
  | add _ added ih => exact ih.add added

variable {layout : Layout}

theorem Sound.index_of_get? (sound : layout.Sound) {index : Int} {f : Field}
    (found : layout.get? index = some f) : f.index = index :=
  sound.indexed _ (OrderedMap.get?_eq_some_iff.1 found)

theorem mem_of_get? {index : Int} {f : Field} (found : layout.get? index = some f) :
    f ∈ layout.toList :=
  List.mem_map.2 ⟨_, OrderedMap.get?_eq_some_iff.1 found, rfl⟩

theorem get?_index (indexed : ∀ e ∈ layout.fields.entries, e.2.index = e.1) {f : Field}
    (member : f ∈ layout.toList) : layout.get? f.index = some f := by
  obtain ⟨e, present, rfl⟩ := List.mem_map.1 member
  rw [indexed e present]
  exact OrderedMap.get?_of_mem present

theorem Sound.get?_of_mem (sound : layout.Sound) {f : Field} (member : f ∈ layout.toList) :
    layout.get? f.index = some f :=
  get?_index sound.indexed member

theorem Sound.map_index (sound : layout.Sound) :
    layout.toList.map (·.index) = layout.fields.keys := by
  rw [toList, OrderedMap.values, List.map_map, OrderedMap.keys]
  exact List.map_congr_left sound.indexed

theorem Sound.nodup_index (sound : layout.Sound) : (layout.toList.map (·.index)).Nodup :=
  sound.map_index ▸ layout.fields.nodup_keys

/-- No other field has a bit of this one. -/
def Unshared (layout : Layout) (f : Field) : Prop :=
  ∀ g ∈ layout.toList, ∀ register b, f.Holds register b → g.Holds register b → f = g

/-- No two fields have a bit of the register in common. -/
def DisjointIn (layout : Layout) (register : Scalar) : Prop :=
  layout.toList.Pairwise fun f g => ∀ b, ¬ (f.Holds register b ∧ g.Holds register b)

/-- A bit that two fields have in common is one in every value of either. -/
def SharesOnes (layout : Layout) : Prop :=
  ∀ f ∈ layout.toList, ∀ g ∈ layout.toList, f ≠ g → ∀ register b,
    f.Holds register b → g.Holds register b →
      ∀ value ∈ f.values.values, value.testBit (b - f.start) = true

/-- No field stands in the register NaN. -/
def Named (layout : Layout) : Prop := ∀ f ∈ layout.toList, f.register.isNaN = false

theorem Sound.disjointIn (sound : layout.Sound) {register : Scalar}
    (named : register.isNaN = false) : layout.DisjointIn register := by
  refine sound.apart.imp fun apart b both => ?_
  have unnamed := Field.isNaN_of_holds apart both.1 both.2
  rw [named] at unnamed
  cases unnamed

theorem disjointIn_congr {register other : Scalar} (same : (register == other) = true) :
    layout.DisjointIn register ↔ layout.DisjointIn other := by
  unfold DisjointIn Field.Holds
  simp only [BEq.congr_right same]

theorem unshared_of_disjointIn {f : Field} (member : f ∈ layout.toList)
    (disjoint : layout.DisjointIn f.register) : layout.Unshared f := by
  intro g present register b here there
  by_contra different
  have symm : Std.Symm fun f g : Field => ∀ b, ¬ (f.Holds register b ∧ g.Holds register b) :=
    ⟨fun _ _ apart b both => apart b both.symm⟩
  have apart := (disjointIn_congr here.1).1 disjoint
  exact apart.forall member present different b ⟨here, there⟩

theorem Sound.unshared (sound : layout.Sound) {f : Field} (member : f ∈ layout.toList)
    (named : f.register.isNaN = false) : layout.Unshared f :=
  unshared_of_disjointIn member (sound.disjointIn named)

/-- NaN is the only register in which fields may share bits. -/
theorem Sound.disjoint_iff (sound : layout.Sound) :
    (∀ register, layout.DisjointIn register) ↔ layout.DisjointIn (.float .nan) := by
  refine ⟨fun disjoint => disjoint _, fun disjoint register => ?_⟩
  cases unnamed : register.isNaN with
  | false => exact sound.disjointIn unnamed
  | true =>
    have same : (register == .float .nan) = true := Scalar.beq_iff.2 (Scalar.isNaN_iff.1 unnamed)
    exact (disjointIn_congr same).2 disjoint

end Layout
end ConfigWords
