import ConfigWords.Proofs.Bits
import ConfigWords.Proofs.Layout
import ConfigWords.Proofs.Outcome

/-! Runs of additions to one layout, some of them refused.
A field is refused for its index or for a bit of an earlier field; comparing the bounds of two fields
finds exactly the bits that they share. A refused field leaves the layout as it was, so every layout
of a run is one that the accepted fields alone would build. -/
namespace ConfigWords

namespace Field

theorem land_mask_eq_zero_iff {f g : Field} :
    f.mask &&& g.mask = 0 ↔ f.stop ≤ g.start ∨ g.stop ≤ f.start := by
  have bit (b : Nat) : (f.mask &&& g.mask).testBit b =
      (decide (f.start ≤ b ∧ b < f.stop) && decide (g.start ≤ b ∧ b < g.stop)) := by
    rw [Nat.testBit_and, testBit_mask, testBit_mask]
  constructor
  · intro none_shared
    -- If the two fields met, the later of the two starts would be a bit of both.
    by_contra meet
    have inside := f.width_pos
    have inside' := g.width_pos
    have shared := bit (max f.start g.start)
    rw [none_shared, Nat.zero_testBit, ← Bool.decide_and, eq_comm, decide_eq_false_iff_not] at shared
    unfold stop at meet shared
    omega
  · intro apart
    apply Nat.eq_of_testBit_eq
    intro b
    rw [bit, Nat.zero_testBit, ← Bool.decide_and, decide_eq_false_iff_not]
    omega

theorem overlaps_eq_true_iff {f g : Field} :
    f.overlaps g = true ↔ f.register.agrees g.register = true ∧ f.mask &&& g.mask ≠ 0 := by
  rw [← Bool.not_eq_false, overlaps_eq_false_iff, ← land_mask_eq_zero_iff, Classical.not_imp]

end Field

namespace Layout

variable {f : Field} {layout next : Layout} {fault : LayoutFault}

theorem run_forM_refuseOverlap (f : Field) (gs : List Field) (layout : Layout) :
    (gs.forM (refuseOverlap f)).run.run layout =
      (match gs.find? fun g => f.overlaps g with
        | some g => .error (.overlap f g)
        | none => .ok (), layout) := by
  induction gs with
  | nil => rfl
  | cons g rest ih =>
    change (refuseOverlap f g >>= fun _ => rest.forM (refuseOverlap f)).run.run layout = _
    cases shared : f.overlaps g with
    | true =>
      have stopped : (refuseOverlap f g).run.run layout = (.error (.overlap f g), layout) := by
        rw [refuseOverlap, if_pos shared]
        rfl
      rw [run_bind_of_error stopped, List.find?_cons_of_pos shared]
    | false =>
      have passed : (refuseOverlap f g).run.run layout = (.ok (), layout) := by
        rw [refuseOverlap, if_neg (by simp [shared])]
        rfl
      rw [run_bind_of_ok passed, ih, List.find?_cons_of_neg (by simp [shared])]

/-- In place, an accepted field leaves the layout that `add` builds, and a refused one the layout
that there was. -/
theorem run_addInPlace (f : Field) (layout : Layout) :
    (addInPlace f).run.run layout = match layout.add f with
      | .ok next => (.ok (), next)
      | .error fault => (.error fault, layout) := by
  have read : (get : ExceptT LayoutFault (StateM Layout) Layout).run.run layout =
      (.ok layout, layout) := rfl
  have loop := run_forM_refuseOverlap f layout.toList layout
  rw [addInPlace, run_bind_of_ok read, contains]
  unfold add
  cases taken : layout.fields.contains f.index with
  | true => rfl
  | false =>
    cases hit : layout.toList.find? fun g => f.overlaps g with
    | none =>
      rw [hit] at loop
      exact run_bind_of_ok loop
    | some g =>
      rw [hit] at loop
      exact run_bind_of_error loop

theorem addInPlace_ok_iff :
    (addInPlace f).run.run layout = (.ok (), next) ↔ layout.add f = .ok next := by
  rw [run_addInPlace]
  cases layout.add f with
  | ok _ => constructor <;> (rintro ⟨⟩; rfl)
  | error _ => constructor <;> rintro ⟨⟩

theorem addInPlace_error_iff :
    (addInPlace f).run.run layout = (.error fault, next) ↔
      layout.add f = .error fault ∧ next = layout := by
  rw [run_addInPlace]
  cases layout.add f with
  | ok _ => constructor <;> rintro ⟨⟨⟩⟩
  | error _ =>
    constructor
    · rintro ⟨⟩
      exact ⟨rfl, rfl⟩
    · rintro ⟨⟨⟩, rfl⟩
      rfl

theorem exists_add_error_iff :
    (∃ fault, layout.add f = .error fault) ↔
      layout.contains f.index = true ∨ ∃ g ∈ layout.toList, f.overlaps g = true := by
  have accepted : (∃ next, layout.add f = .ok next) ↔
      layout.contains f.index = false ∧ ∀ g ∈ layout.toList, f.overlaps g = false := by
    simp [add_eq_ok_iff]
  have refused : (∃ fault, layout.add f = .error fault) ↔ ¬ ∃ next, layout.add f = .ok next := by
    cases layout.add f <;> simp
  rw [refused, accepted, Classical.not_and_iff_not_or_not]
  simp

def after (calls : List Field) : Layout :=
  calls.foldl (fun layout f => ((addInPlace f).run.run layout).2) empty

theorem Reachable.addInPlace (reachable : layout.Reachable) (f : Field) :
    ((addInPlace f).run.run layout).2.Reachable := by
  rw [run_addInPlace]
  cases added : layout.add f with
  | ok next => exact .add reachable added
  | error fault => exact reachable

theorem reachable_after (calls : List Field) : (after calls).Reachable := by
  have kept : ∀ layout : Layout, layout.Reachable →
      (calls.foldl (fun layout f => ((Layout.addInPlace f).run.run layout).2) layout).Reachable := by
    induction calls with
    | nil => exact fun _ reachable => reachable
    | cons f rest ih => exact fun layout reachable => ih _ (reachable.addInPlace f)
  exact kept empty .empty

/-- After any run of additions, the next one is refused exactly for an index that is taken or a bit
that a field of the register has; refused, it changes nothing, and accepted, it comes last. So all
indices differ, and fields of one register have no bit in common. -/
theorem addInPlace_after (calls : List Field) (f : Field) :
    ((∃ fault next, (addInPlace f).run.run (after calls) = (.error fault, next)) ↔
      f.index ∈ (after calls).toList.map (·.index) ∨
        ∃ g ∈ (after calls).toList, f.register.agrees g.register = true ∧ f.mask &&& g.mask ≠ 0) ∧
    (∀ fault next, (addInPlace f).run.run (after calls) = (.error fault, next) →
      next = after calls) ∧
    (∀ next, (addInPlace f).run.run (after calls) = (.ok (), next) →
      next.fields.entries = (after calls).fields.entries ++ [(f.index, f)]) ∧
    ((after calls).toList.map (·.index)).Nodup ∧
    (after calls).toList.Pairwise fun g h =>
      g.register.agrees h.register = true → g.mask &&& h.mask = 0 := by
  have sound := (reachable_after calls).sound
  refine ⟨?_, ?_, ?_, sound.nodup_index, ?_⟩
  · simp only [addInPlace_error_iff, exists_and_left, exists_eq, and_true]
    rw [exists_add_error_iff, sound.map_index, contains, OrderedMap.contains_eq_true_iff]
    simp only [Field.overlaps_eq_true_iff]
  · intro fault next refused
    exact (addInPlace_error_iff.1 refused).2
  · intro next accepted
    exact entries_of_add (addInPlace_ok_iff.1 accepted)
  · exact sound.apart.imp fun apart same =>
      Field.land_mask_eq_zero_iff.2 (Field.overlaps_eq_false_iff.1 apart same)

end Layout
end ConfigWords
