import ConfigWords.Pins.Tables
import ConfigWords.Proofs.OrderedMap
import ConfigWords.Proofs.Outcome

/-! Pin tables that are accepted.
The tables are accepted exactly when every item stands under its own name and `Sound` holds:
selectors mean one thing, and references lead somewhere. -/
namespace ConfigWords.PinTables

section Index

variable {K V : Type} [BEq K] {key : V → K} {fault : K → PinFault}

theorem index_eq_ok_iff {items : List V} {m : OrderedMap K V} :
    index key fault items = .ok m ↔ m.entries = items.map fun v => (key v, v) := by
  refine OrderedMap.foldlM_eq_ok_iff_entries (fun m v taken => ⟨fault (key v), ?_⟩)
    fun m v free => ?_
  · exact if_pos taken
  · exact if_neg (by simp [free])

theorem key_of_entries {items : List V} {m : OrderedMap K V}
    (entries : m.entries = items.map fun v => (key v, v)) : ∀ e ∈ m.entries, key e.2 = e.1 := by
  intro e member
  rw [entries] at member
  obtain ⟨v, _, rfl⟩ := List.mem_map.1 member
  rfl

theorem keys_of_entries {items : List V} {m : OrderedMap K V}
    (entries : m.entries = items.map fun v => (key v, v)) : m.keys = items.map key := by
  rw [OrderedMap.keys, entries, List.map_map]
  rfl

theorem values_of_entries {items : List V} {m : OrderedMap K V}
    (entries : m.entries = items.map fun v => (key v, v)) : m.values = items := by
  rw [OrderedMap.values, entries, List.map_map]
  exact List.map_id items

theorem exists_index_iff [LawfulBEq K] {items : List V} :
    (∃ m, index key fault items = .ok m) ↔ (items.map key).Nodup := by
  simp only [index_eq_ok_iff]
  constructor
  · rintro ⟨m, entries⟩
    exact keys_of_entries entries ▸ m.nodup_keys
  · exact OrderedMap.exists_indexed

theorem index_eq_error_iff [LawfulBEq K] {items : List V} {cause : PinFault} :
    index key fault items = .error cause ↔ ∃ before k after,
      items.map key = before ++ k :: after ∧ before.Nodup ∧ k ∈ before ∧ fault k = cause := by
  have refused {before : List V} {m : OrderedMap K V} (run : index key fault before = .ok m)
      (v : V) : (if m.contains (key v) then .error (fault (key v))
        else .ok (m.insert (key v) v) : Except PinFault (OrderedMap K V)) = .error cause ↔
          key v ∈ before.map key ∧ fault (key v) = cause := by
    rw [← keys_of_entries (index_eq_ok_iff.1 run), ← OrderedMap.contains_eq_true_iff]
    split <;> simp_all
  unfold index at refused ⊢
  rw [foldlM_eq_error_iff]
  constructor
  · rintro ⟨before, v, after, m, rfl, run, stop⟩
    obtain ⟨taken, blamed⟩ := (refused run v).1 stop
    exact ⟨before.map key, key v, after.map key, by simp, exists_index_iff.1 ⟨m, run⟩, taken, blamed⟩
  · rintro ⟨_, _, _, listed, nodup, taken, blamed⟩
    obtain ⟨before, later, rfl, rfl, split⟩ := List.map_eq_append_iff.1 listed
    obtain ⟨v, after, rfl, rfl, rfl⟩ := List.map_eq_cons_iff.1 split
    obtain ⟨m, run⟩ := exists_index_iff.2 nodup
    exact ⟨before, v, after, m, rfl, run, (refused run v).2 ⟨taken, blamed⟩⟩

theorem get?_of_entries {items : List V} {m : OrderedMap K V}
    (entries : m.entries = items.map fun v => (key v, v)) (k : K) :
    m.get? k = items.find? fun v => key v == k := by
  simp [OrderedMap.get?, entries, List.find?_map, Function.comp_def]

end Index

theorem checkGroup_eq_ok_iff {g : PinGroup} : checkGroup g = .ok () ↔ g.selectors.Nodup := by
  unfold checkGroup
  split <;> simp_all

theorem checkInput_eq_ok_iff {groups : OrderedMap Int PinGroup} {s : InputSignal} :
    checkInput groups s = .ok () ↔
      ∃ g, groups.get? s.group = some g ∧ ∀ n ∈ s.selectors, n ∈ g.selectors := by
  unfold checkInput
  cases found : groups.get? s.group with
  | none => simp
  | some g =>
    have held : (s.selectors.filter fun n => n ∉ g.selectors) = [] ↔
        ∀ n ∈ s.selectors, n ∈ g.selectors := by simp [List.filter_eq_nil_iff]
    simp only [Option.some.injEq, exists_eq_left', ← held]
    split
    · rename_i none_missing
      exact ⟨fun _ => none_missing, fun _ => rfl⟩
    · rename_i some_missing
      constructor
      · intro impossible
        cases impossible
      · intro none_missing
        exact (some_missing none_missing).elim

theorem entry?_isNone_iff {g : PinGroup} {pin : String} :
    (g.entry? pin).isNone = true ↔ pin ∉ g.pins.map (·.pin) := by
  simp [PinGroup.entry?]

theorem checkOutput_eq_ok_iff {groups : OrderedMap Int PinGroup} {p : OutputPin} :
    checkOutput groups p = .ok () ↔
      (∃ g, groups.get? p.group = some g ∧ p.pin ∈ g.pins.map (·.pin)) ∧
        (p.outputs.map (·.selector)).Nodup := by
  unfold checkOutput
  cases found : groups.get? p.group with
  | none => simp
  | some g =>
    by_cases member : p.pin ∈ g.pins.map (·.pin)
    · have present : ¬ (g.entry? p.pin).isNone = true := by
        rw [entry?_isNone_iff]
        exact not_not_intro member
      simp only [present, Bool.false_eq_true, if_false, Option.some.injEq, exists_eq_left', member,
        true_and]
      split <;> simp_all
    · simp only [entry?_isNone_iff.2 member, if_true, Option.some.injEq, exists_eq_left', member,
        false_and, reduceCtorEq]

/-- Every item stands under its own name, selectors differ where they are read, and groups hold
what signals and pins ask of them. -/
structure Sound (t : PinTables) : Prop where
  group_keyed : ∀ e ∈ t.groups.entries, e.2.number = e.1
  input_keyed : ∀ e ∈ t.inputs.entries, e.2.signal = e.1
  output_keyed : ∀ e ∈ t.outputs.entries, e.2.pin = e.1
  selectors_nodup : ∀ g ∈ t.groups.values, g.selectors.Nodup
  input_group : ∀ s ∈ t.inputs.values,
    ∃ g, t.group? s.group = some g ∧ ∀ n ∈ s.selectors, n ∈ g.selectors
  output_group : ∀ p ∈ t.outputs.values,
    ∃ g, t.group? p.group = some g ∧ p.pin ∈ g.pins.map (·.pin)
  outputs_nodup : ∀ p ∈ t.outputs.values, (p.outputs.map (·.selector)).Nodup

theorem build_eq_ok_iff {groups : List PinGroup} {inputs : List InputSignal}
    {outputs : List OutputPin} {t : PinTables} :
    build groups inputs outputs = .ok t ↔
      t.Sound ∧ t.groups.entries = (groups.map fun g => (g.number, g)) ∧
        t.inputs.entries = (inputs.map fun s => (s.signal, s)) ∧
        t.outputs.entries = (outputs.map fun p => (p.pin, p)) := by
  unfold build
  simp only [bind_eq_ok, index_eq_ok_iff, pure_eq_ok, forM_eq_ok_iff, checkGroup_eq_ok_iff,
    checkInput_eq_ok_iff, checkOutput_eq_ok_iff, exists_const]
  constructor
  · rintro ⟨gs, group_entries, is, input_entries, os, output_entries, checked_groups,
      checked_inputs, checked_outputs, rfl⟩
    have sound : PinTables.Sound ⟨gs, is, os⟩ :=
      { group_keyed := key_of_entries group_entries
        input_keyed := key_of_entries input_entries
        output_keyed := key_of_entries output_entries
        selectors_nodup := checked_groups
        input_group := checked_inputs
        output_group := fun p member => (checked_outputs p member).1
        outputs_nodup := fun p member => (checked_outputs p member).2 }
    exact ⟨sound, group_entries, input_entries, output_entries⟩
  · rintro ⟨sound, group_entries, input_entries, output_entries⟩
    exact ⟨t.groups, group_entries, t.inputs, input_entries, t.outputs, output_entries,
      sound.selectors_nodup, sound.input_group,
      fun p member => ⟨sound.output_group p member, sound.outputs_nodup p member⟩, rfl⟩

end ConfigWords.PinTables
