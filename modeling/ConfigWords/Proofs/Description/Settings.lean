import ConfigWords.Proofs.Description.Declarations

/-! Settings and fields that are read from one list.
Every entry adds its setting to the catalogue and, unless it is informational, a field with the same
index and labels to the layout. So the two stay in step through the whole list. -/
namespace ConfigWords.Description

/-- A setting and its field: an informational setting has none, any other has one with its index
and its labels in a declared register. -/
def Paired (registers : Registers) (setting : Setting) : Option Field → Prop
  | none => setting.informational = true
  | some f => setting.informational = false ∧ f.index = setting.index ∧
      f.values.keys = setting.options ∧ registers.contains f.register = true

theorem Declares.paired {registers : Registers} {entry : Tree} {setting : Setting}
    {mapped : Option Field} (declares : Declares registers entry setting mapped) :
    Paired registers setting mapped := by
  cases mapped with
  | none => exact declares.choices.1
  | some f =>
    obtain ⟨chosen, index, labels, ⟨_, _, _, _, place⟩, _⟩ := declares.choices
    exact ⟨chosen, index, labels, place.declared⟩

/-- The settings so far and the fields so far are in step. -/
structure Matched (registers : Registers) (tables : Schema × Layout) : Prop where
  keyed : ∀ e ∈ tables.1.settings.entries, e.2.index = e.1
  reachable : tables.2.Reachable
  declared : ∀ f ∈ tables.2.toList, registers.contains f.register = true
  aligned : (tables.2.fields.entries.map fun e => (e.1, e.2.values.keys)) =
    (tables.1.settings.entries.filter fun e => !e.2.informational).map fun e => (e.1, e.2.options)

theorem matched_empty (registers : Registers) : Matched registers (Schema.empty, Layout.empty) where
  keyed := by simp [Schema.empty, OrderedMap.empty]
  reachable := .empty
  declared := by simp [Layout.toList, Layout.empty, OrderedMap.empty, OrderedMap.values]
  aligned := rfl

theorem Matched.addSetting {registers : Registers} {tables next : Schema × Layout} {entry : Tree}
    (together : Matched registers tables)
    (added : addSetting registers tables entry = .ok next) : Matched registers next := by
  obtain ⟨setting, mapped, declares, grown, placed⟩ := addSetting_eq_ok_iff.1 added
  have settings := (Schema.add_eq_ok_iff.1 grown).2
  -- The setting comes last in the catalogue; only a mapped one also comes last in the layout.
  have keyed : ∀ e ∈ next.1.settings.entries, e.2.index = e.1 := by
    intro e member
    rw [settings] at member
    rcases List.mem_append.1 member with old | new
    · exact together.keyed e old
    · cases List.mem_singleton.1 new
      rfl
  cases mapped with
  | none =>
    have informational : setting.informational = true := declares.paired
    have unchanged : tables.2 = next.2 := placed
    refine ⟨keyed, unchanged ▸ together.reachable, unchanged ▸ together.declared, ?_⟩
    simp [settings, informational, ← unchanged, together.aligned]
  | some f =>
    obtain ⟨mapped, index, labels, declared⟩ := declares.paired
    have placed : tables.2.add f = .ok next.2 := placed
    refine ⟨keyed, .add together.reachable placed, ?_, ?_⟩
    · intro g member
      rw [Layout.toList_of_add placed] at member
      rcases List.mem_append.1 member with old | new
      · exact together.declared g old
      · cases List.mem_singleton.1 new
        exact declared
    · simp [settings, Layout.entries_of_add placed, mapped, together.aligned, index, labels]

theorem readSettings_matched {registers : Registers} {tree : Tree} {tables : Schema × Layout}
    (read : readSettings registers tree = .ok tables) : Matched registers tables := by
  unfold readSettings at read
  obtain ⟨entries, _, run⟩ := bind_eq_ok.1 read
  exact foldlM_invariant (Matched registers) (fun _ _ _ together added => together.addSetting added)
    (matched_empty registers) run

theorem Matched.field_iff {registers : Registers} {tables : Schema × Layout}
    (together : Matched registers tables) {index : Int} {labels : List String} :
    (∃ f, tables.2.get? index = some f ∧ f.values.keys = labels) ↔
      ∃ s, tables.1.get? index = some s ∧ s.informational = false ∧ s.options = labels := by
  have mapped : (∃ f, tables.2.get? index = some f ∧ f.values.keys = labels) ↔
      (index, labels) ∈ tables.2.fields.entries.map fun e => (e.1, e.2.values.keys) := by
    simp [Layout.get?, OrderedMap.get?_eq_some_iff]
  have chosen : (∃ s, tables.1.get? index = some s ∧ s.informational = false ∧
      s.options = labels) ↔ (index, labels) ∈
        (tables.1.settings.entries.filter fun e => !e.2.informational).map
          fun e => (e.1, e.2.options) := by
    simp [Schema.get?, OrderedMap.get?_eq_some_iff, and_assoc]
  rw [mapped, chosen, together.aligned]

theorem Matched.contains_iff {registers : Registers} {tables : Schema × Layout}
    (together : Matched registers tables) {index : Int} :
    tables.2.contains index = true ↔
      ∃ s, tables.1.get? index = some s ∧ s.informational = false := by
  rw [Layout.contains, OrderedMap.contains_iff_exists]
  constructor
  · rintro ⟨f, found⟩
    obtain ⟨s, known, mapped, _⟩ := together.field_iff.1 ⟨f, found, rfl⟩
    exact ⟨s, known, mapped⟩
  · rintro ⟨s, known, mapped⟩
    obtain ⟨f, found, _⟩ := together.field_iff.2 ⟨s, known, mapped, rfl⟩
    exact ⟨f, found⟩

theorem Matched.nodup_index {registers : Registers} {tables : Schema × Layout}
    (together : Matched registers tables) : (tables.1.toList.map (·.index)).Nodup := by
  have listed : tables.1.toList.map (·.index) = tables.1.settings.keys := by
    rw [Schema.toList, OrderedMap.values, List.map_map, OrderedMap.keys]
    exact List.map_congr_left together.keyed
  rw [listed]
  exact tables.1.settings.nodup_keys

end ConfigWords.Description
