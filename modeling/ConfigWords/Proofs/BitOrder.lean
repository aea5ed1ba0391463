import ConfigWords.Proofs.Bits
import ConfigWords.Proofs.Compiler
import Mathlib.Algebra.BigOperators.Ring.List

/-! The fields of one register from the lowest bit to the highest.
No field begins before the one in front of it has ended. So what is taken up by the fields adds up
inside the register, and adding their masks is the same as joining them. -/
namespace ConfigWords

namespace Field

theorem mask_lt {f : Field} {high : Nat} (reach : f.stop ≤ high) : f.mask < 2 ^ high := by
  have positive := Word.span_pos f.width
  have below : f.mask < Word.span f.stop := by
    rw [mask, stop, Nat.add_comm, Word.span_add]
    exact Nat.mul_lt_mul_of_pos_right (by omega) (Word.span_pos f.start)
  rw [Word.span_eq, Nat.pow_eq] at below
  exact Nat.lt_of_lt_of_le below (Nat.pow_le_pow_right (by decide) reach)

theorem span_dvd_mask {f : Field} {low : Nat} (above : low ≤ f.start) :
    Word.span low ∣ f.mask := by
  obtain ⟨d, start⟩ := Nat.exists_eq_add_of_le above
  rw [mask, start, Word.span_add]
  exact Dvd.dvd.mul_left (Nat.dvd_mul_right _ _) _

abbrev Ascending (fs : List Field) : Prop := fs.Pairwise fun f g => f.stop ≤ g.start

def union (fs : List Field) : Nat := (fs.map mask).foldr (· ||| ·) 0

section Ascending

variable {fs : List Field} {low : Nat}

theorem add_sum_width_le (ascending : Ascending fs) (above : ∀ f ∈ fs, low ≤ f.start)
    (inside : low ≤ Word.bits) : low + (fs.map (·.width)).sum ≤ Word.bits := by
  induction fs generalizing low with
  | nil => exact inside
  | cons f rest ih =>
    obtain ⟨first, later⟩ := List.pairwise_cons.1 ascending
    have reach : f.stop ≤ Word.bits := f.start_add_width_le
    have rest_fits := ih later first reach
    have begins := above f List.mem_cons_self
    rw [List.map_cons, List.sum_cons]
    unfold stop at rest_fits
    omega

theorem length_le_sum_width (fs : List Field) : fs.length ≤ (fs.map (·.width)).sum := by
  induction fs with
  | nil => exact Nat.le_refl 0
  | cons f rest ih =>
    have positive := f.width_pos
    rw [List.length_cons, List.map_cons, List.sum_cons]
    omega

theorem span_dvd_sum_mask (above : ∀ f ∈ fs, low ≤ f.start) :
    Word.span low ∣ (fs.map mask).sum := by
  apply List.dvd_sum
  intro m member
  obtain ⟨f, present, rfl⟩ := List.mem_map.1 member
  exact span_dvd_mask (above f present)

theorem sum_mask_eq_union (ascending : Ascending fs) : (fs.map mask).sum = union fs := by
  induction fs with
  | nil => rfl
  | cons f rest ih =>
    obtain ⟨first, later⟩ := List.pairwise_cons.1 ascending
    -- The later masks are a multiple of what lies above the first one.
    obtain ⟨k, multiple⟩ := span_dvd_sum_mask first
    have joined := Nat.two_pow_add_eq_or_of_lt (mask_lt (Nat.le_refl f.stop)) k
    rw [union, List.map_cons, List.sum_cons, List.foldr_cons]
    change _ = f.mask ||| union rest
    rw [← ih later, multiple, Word.span_eq, Nat.add_comm, Nat.or_comm]
    exact joined

theorem union_lt (fs : List Field) : union fs < 2 ^ Word.bits := by
  induction fs with
  | nil => decide
  | cons f rest ih => exact Nat.or_lt_two_pow (mask_lt f.start_add_width_le) ih

end Ascending

end Field

namespace Layout

variable {layout : Layout} {register : Scalar}

theorem fieldsOf_perm (layout : Layout) (register : Scalar) :
    (layout.fieldsOf register).Perm (layout.toList.filter fun f => f.register.agrees register) :=
  List.mergeSort_perm _ _

theorem mem_fieldsOf_iff {f : Field} :
    f ∈ layout.fieldsOf register ↔ f ∈ layout.toList ∧ f.register.agrees register = true := by
  rw [(fieldsOf_perm layout register).mem_iff, List.mem_filter]

theorem fieldsOf_sorted (layout : Layout) (register : Scalar) :
    (layout.fieldsOf register).Pairwise fun f g => f.start ≤ g.start := by
  refine (List.pairwise_mergeSort ?_ ?_ _).imp of_decide_eq_true
  · intro f g h first second
    simp only [decide_eq_true_eq] at first second ⊢
    omega
  · intro f g
    simp only [Bool.or_eq_true, decide_eq_true_eq]
    omega

theorem Sound.fieldsOf_apart (sound : layout.Sound) (register : Scalar) :
    (layout.fieldsOf register).Pairwise fun f g => f.overlaps g = false := by
  rw [(fieldsOf_perm layout register).pairwise_iff fun {f g} apart =>
    (Field.overlaps_comm g f).trans apart]
  exact sound.apart.filter _

/-- Sorted by their first bits, fields without a common bit follow each other. -/
theorem Sound.fieldsOf_ascending (sound : layout.Sound) (register : Scalar) :
    Field.Ascending (layout.fieldsOf register) := by
  refine ((fieldsOf_sorted layout register).and (sound.fieldsOf_apart register)).imp_of_mem ?_
  intro f g first second ⟨order, apart⟩
  have here := (mem_fieldsOf_iff.1 first).2
  have there := (mem_fieldsOf_iff.1 second).2
  have same : f.register.agrees g.register = true :=
    Scalar.agrees_trans here ((Scalar.agrees_comm _ _).trans there)
  have positive := g.width_pos
  rcases Field.overlaps_eq_false_iff.1 apart same with before | behind
  · exact before
  · -- The second field would end before the first one begins, and so begin before it.
    unfold Field.stop at behind
    omega

/-- The fields of a register are the stored ones, each once, from the lowest bit to the highest; they
take up at most 32 bits, and their masks add up to their union. -/
theorem fieldsOf_in_bit_order (reachable : layout.Reachable) (register : Scalar) :
    (layout.fieldsOf register).Perm (layout.toList.filter fun f => f.register.agrees register) ∧
      ((layout.fieldsOf register).map (·.index)).Nodup ∧
      ((layout.fieldsOf register).map (·.start)).Pairwise (· < ·) ∧
      (layout.fieldsOf register).Pairwise (fun f g => f.stop ≤ g.start) ∧
      ((layout.fieldsOf register).map (·.width)).sum ≤ 32 ∧
      (layout.fieldsOf register).length ≤ 32 ∧
      ((layout.fieldsOf register).map Field.mask).sum =
        ((layout.fieldsOf register).map Field.mask).foldr (· ||| ·) 0 ∧
      ((layout.fieldsOf register).map Field.mask).sum < 0x100000000 := by
  have sound := reachable.sound
  have ascending := sound.fieldsOf_ascending register
  have perm := fieldsOf_perm layout register
  have once : ((layout.fieldsOf register).map (·.index)).Nodup := by
    rw [(perm.map _).nodup_iff]
    exact sound.nodup_index.sublist (List.filter_sublist.map _)
  have increasing : ((layout.fieldsOf register).map (·.start)).Pairwise (· < ·) := by
    rw [List.pairwise_map]
    refine ascending.imp fun {f g} order => ?_
    have positive := f.width_pos
    unfold Field.stop at order
    omega
  have fits := Field.add_sum_width_le ascending (fun f _ => f.start.zero_le) (Nat.zero_le _)
  rw [Nat.zero_add] at fits
  have union := Field.sum_mask_eq_union ascending
  refine ⟨perm, once, increasing, ascending, fits,
    (Field.length_le_sum_width _).trans fits, union, ?_⟩
  rw [union]
  exact Field.union_lt _

theorem fieldsOf_in_bit_order_twoFields :
    ∃ layout, (Layout.empty.add Compiler.lock >>= (·.add Compiler.mode)) = .ok layout ∧
      layout.toList = [Compiler.lock, Compiler.mode] ∧
      (layout.fieldsOf (.text "CFG")).Perm [Compiler.lock, Compiler.mode] ∧
      ((layout.fieldsOf (.text "CFG")).map (·.start)).Pairwise (· < ·) ∧
      ((layout.fieldsOf (.text "CFG")).map Field.mask).sum = 0x1F := by
  have first : Layout.empty.add Compiler.lock = .ok ⟨OrderedMap.ofList [(2, Compiler.lock)]⟩ := rfl
  obtain ⟨layout, second, stored⟩ : ∃ layout,
      Layout.add ⟨OrderedMap.ofList [(2, Compiler.lock)]⟩ Compiler.mode = .ok layout ∧
        layout.toList = [Compiler.lock, Compiler.mode] := ⟨_, rfl, rfl⟩
  obtain ⟨perm, _, increasing, _⟩ :=
    fieldsOf_in_bit_order (.add (.add .empty first) second) (.text "CFG")
  have own : (layout.toList.filter fun f => f.register.agrees (.text "CFG")) =
      [Compiler.lock, Compiler.mode] := by
    rw [stored]
    rfl
  rw [own] at perm
  refine ⟨layout, ?_, stored, perm, increasing, ?_⟩
  · rw [first]
    exact second
  · rw [(perm.map Field.mask).sum_eq]
    rfl

end Layout
end ConfigWords
