import ConfigWords.Field
import ConfigWords.Proofs.OrderedMap
import ConfigWords.Setting

/-! Drafts of settings and fields.
What is checked keeps everything that its draft says, and a draft that breaks no rule passes. -/
namespace ConfigWords

namespace Setting

def draft (s : Setting) : Draft :=
  ⟨s.index, s.name, s.category, s.options, s.default, s.description, s.informational⟩

structure Draft.WellFormed (d : Draft) : Prop where
  index_nonneg : 0 ≤ d.index
  options_ne_nil : d.options ≠ []
  options_nodup : d.options.Nodup
  default_mem : d.default ∈ d.options

theorem Draft.WellFormed.check {d : Draft} (wellFormed : d.WellFormed) :
    ∃ s, d.check = .ok s ∧ s.draft = d := by
  have index : ¬ d.index < 0 := Int.not_lt.2 wellFormed.index_nonneg
  unfold Draft.check
  rw [dif_neg index, dif_neg wellFormed.options_ne_nil, dif_pos wellFormed.options_nodup,
    dif_pos wellFormed.default_mem]
  exact ⟨_, rfl, rfl⟩

theorem draft_wellFormed (s : Setting) : s.draft.WellFormed where
  index_nonneg := s.index_nonneg
  options_ne_nil := s.options_ne_nil
  options_nodup := s.options_nodup
  default_mem := s.default_mem

theorem draft_injective : Function.Injective draft := by
  intro s t same
  cases s
  cases t
  simpa [draft] using same

/-- A setting passes as its own draft, and no other draft gives it. -/
theorem Draft.check_eq_ok_iff {d : Draft} {s : Setting} : d.check = .ok s ↔ s.draft = d := by
  constructor
  · intro checked
    unfold check at checked
    split at checked
    · cases checked
    · split at checked
      · cases checked
      · split at checked
        · split at checked
          · cases checked
            rfl
          · cases checked
        · cases checked
  · rintro rfl
    obtain ⟨t, checked, same⟩ := s.draft_wellFormed.check
    rw [checked, draft_injective same]

end Setting

namespace Field

def draft (f : Field) : Draft :=
  ⟨f.index, f.register, f.name, f.start, f.width, f.values.mapValues fun _ (v : Nat) => (v : Int), f.pragmas⟩

theorem draft_keys (f : Field) : f.draft.values.keys = f.values.keys :=
  OrderedMap.keys_mapValues _ _

structure Draft.WellFormed (d : Draft) : Prop where
  start_nonneg : 0 ≤ d.start
  width_pos : 1 ≤ d.width
  reach : d.start + d.width ≤ 32
  fits : ∀ e ∈ d.values.entries, 0 ≤ e.2 ∧ e.2 < Word.span d.width.toNat
  pragma_known : ∀ e ∈ d.pragmas.entries, d.values.contains e.1 = true

theorem Draft.WellFormed.check {d : Draft} (wellFormed : d.WellFormed) :
    ∃ f, d.check = .ok f ∧ f.draft = d := by
  have bits : Word.bits = 32 := rfl
  have nonneg := wellFormed.start_nonneg
  have positive := wellFormed.width_pos
  have reach := wellFormed.reach
  unfold Draft.check
  rw [dif_neg (by omega), dif_neg (by omega), dif_neg (by omega)]
  dsimp only
  split
  · rename_i e large
    have outside := List.find?_some large
    have inside := wellFormed.fits e (List.mem_of_find?_eq_some large)
    simp [inside] at outside
  · split
    · rename_i e rest foreign
      have member : e ∈ d.pragmas.entries.filter fun e =>
          !(d.values.mapValues fun _ v => v.toNat).contains e.1 := foreign ▸ List.mem_cons_self
      obtain ⟨present, unknown⟩ := List.mem_filter.1 member
      rw [OrderedMap.contains_mapValues, wellFormed.pragma_known e present] at unknown
      cases unknown
    · refine ⟨_, rfl, ?_⟩
      have values : (d.values.mapValues fun _ v => (v.toNat : Int)) = d.values := by
        rw [OrderedMap.mapValues_congr (g := fun _ v => v)
          fun e member => Int.toNat_of_nonneg (wellFormed.fits e member).1]
        exact d.values.mapValues_id
      simp only [draft, OrderedMap.mapValues_mapValues, values, Int.toNat_of_nonneg nonneg,
        Int.toNat_of_nonneg (Int.le_trans (by decide) positive)]

theorem Draft.wellFormed_of_check {d : Draft} {f : Field} (checked : d.check = .ok f) :
    d.WellFormed := by
  have bits : Word.bits = 32 := rfl
  unfold Draft.check at checked
  split at checked
  · cases checked
  · split at checked
    · cases checked
    · split at checked
      · cases checked
      · dsimp only at checked
        split at checked
        · cases checked
        · rename_i large
          split at checked
          · cases checked
          · rename_i known
            exact {
              start_nonneg := by omega
              width_pos := by omega
              reach := by omega
              fits := fun e member => by simpa using List.find?_eq_none.1 large e member
              pragma_known := fun e member => by
                simpa using List.filter_eq_nil_iff.1 known e member }

theorem Draft.draft_of_check {d : Draft} {f : Field} (checked : d.check = .ok f) : f.draft = d := by
  obtain ⟨g, again, same⟩ := (wellFormed_of_check checked).check
  cases checked.symm.trans again
  exact same

theorem draft_wellFormed (f : Field) : f.draft.WellFormed where
  start_nonneg := Int.natCast_nonneg _
  width_pos := Int.ofNat_le.2 f.width_pos
  reach := by
    have reach := f.start_add_width_le
    rw [Word.bits] at reach
    exact Int.ofNat_le.2 reach
  fits := by
    intro e member
    obtain ⟨raw, present, rfl⟩ := List.mem_map.1 member
    exact ⟨Int.natCast_nonneg _, Int.ofNat_lt.2 (f.value_lt raw present)⟩
  pragma_known := by
    intro e member
    rw [draft, OrderedMap.contains_mapValues]
    exact f.pragma_known e member

theorem draft_injective : Function.Injective draft := by
  intro f g same
  have values : f.values = g.values := by
    refine OrderedMap.ext_entries (List.map_injective_iff.2 ?_ (congrArg (·.values.entries) same))
    intro a b equal
    obtain ⟨label, number⟩ := Prod.mk.inj equal
    exact Prod.ext label (Int.ofNat_inj.1 number)
  cases f
  cases g
  simp only [draft, Draft.mk.injEq, Int.ofNat_inj] at same values
  simp [same, values]

theorem Draft.check_eq_ok_iff {d : Draft} {f : Field} : d.check = .ok f ↔ f.draft = d := by
  refine ⟨draft_of_check, ?_⟩
  rintro rfl
  obtain ⟨g, checked, same⟩ := f.draft_wellFormed.check
  rw [checked, draft_injective same]

end Field
end ConfigWords
