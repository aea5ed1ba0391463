import ConfigWords.Proofs.Description.Reading

/-! What becomes of the entries under the settings.
Every entry becomes one setting, in the order of the entries. The labels of a setting are its options
as they are written out, and two keys of a mapping may be written out alike: then the field of the
setting has one label for both. -/
namespace ConfigWords

section Forms

variable {V : Type} {value : Tree → V → Prop} {entries : List (Scalar × Tree)}
  {pairs : List (String × V)}

def labelsOf (entries : List (Scalar × Tree)) : List String := entries.map fun e => e.1.plain

theorem Labelled.keeps_iff (labelled : Labelled value entries pairs)
    (unique : ∀ t v w, value t v → value t w → v = w) :
    ((OrderedMap.ofList pairs).keys.length = entries.length ∧
      ∀ e ∈ entries, ∃ v, value e.2 v ∧ (OrderedMap.ofList pairs).get? e.1.plain = some v) ↔
      (labelsOf entries).Nodup := by
  have labels : labelsOf entries = pairs.map (·.1) :=
    map_eq_map_of_forall₂ labelled fun _ _ form => form.1.2
  rw [labels, ← OrderedMap.ofList_keeps_iff, labelled.length_eq]
  apply and_congr_right'
  apply forall_mem_iff_of_forall₂ labelled
  rintro e pair ⟨⟨_, label⟩, own⟩
  have same : e.1.plain = pair.1 := label
  rw [same]
  constructor
  · rintro ⟨v, other, found⟩
    exact unique _ _ _ own other ▸ found
  · exact fun found => ⟨_, own, found⟩

end Forms

namespace Description

open ConfigWords.Tree

def settingItems (tree : Tree) : Except DescriptionFault (List Tree) := do
  (← tree.required "settings").items

def optionEntries (entry : Tree) : Except DescriptionFault (List (Scalar × Tree)) := do
  (← entry.required "options").entries

/-- The options of an entry as a list; of a mapping, its keys. -/
def optionItems (entry : Tree) : Except DescriptionFault (List Tree) := do
  (← entry.required "options").items

/-- The pragmas of an entry; what counts as false is none. -/
def pragmaEntries (entry : Tree) : Except DescriptionFault (List (Scalar × Tree)) := do
  let part ← entry.optional "pragmas" .null
  if part.truth then part.entries else return []

def HasField (entry : Tree) : Prop :=
  ∃ field, entry.optional "field" .null = .ok field ∧ isPresent field = true

section Entry

variable {registers : Registers} {entry : Tree} {setting : Setting}

theorem Declares.hasField {f : Field} (declares : Declares registers entry setting (some f)) :
    HasField entry := by
  obtain ⟨field, found, place⟩ := has_iff.1 declares.choices.2.2.2.place
  obtain ⟨_, _, rfl, _⟩ := place.register
  exact ⟨_, optional_of_required found, rfl⟩

theorem Declares.options_of_field {f : Field}
    (declares : Declares registers entry setting (some f)) :
    ∃ options pairs, optionEntries entry = .ok options ∧
      Labelled (fun t n => t.toInt = .ok n) options pairs ∧
      f.draft.values = OrderedMap.ofList pairs := by
  obtain ⟨_, found, options, pairs, rfl, labelled, made⟩ :=
    has_iff.1 declares.choices.2.2.2.values
  exact ⟨options, pairs, by rw [optionEntries, found]; rfl, labelled, made⟩

theorem Declares.pragmas_of_field {f : Field}
    (declares : Declares registers entry setting (some f)) :
    ∃ pragmas pairs, pragmaEntries entry = .ok pragmas ∧
      Labelled (fun t text => t = .text text) pragmas pairs ∧
      f.pragmas = OrderedMap.ofList pairs := by
  obtain ⟨part, found, listed⟩ : ∃ part,
      entry.optional "pragmas" .null = .ok part ∧ ListsPragmas f.pragmas part :=
    declares.choices.2.2.2.pragmas.optional fun omitted => omitted
  rw [pragmaEntries, found, ok_bind]
  unfold ListsPragmas at listed
  split at listed
  · obtain ⟨pragmas, pairs, rfl, labelled, made⟩ := listed
    exact ⟨pragmas, pairs, by simp [*, Tree.entries], labelled, made⟩
  · exact ⟨[], [], by simp [*, pure_eq_ok], .nil, listed⟩

theorem Declares.not_hasField (declares : Declares registers entry setting none) :
    ¬ HasField entry := by
  rintro ⟨field, found, present⟩
  obtain ⟨_, again, rfl⟩ : ∃ value, entry.optional "field" .null = .ok value ∧ value = .null :=
    declares.choices.2.1.optional fun _ => rfl
  cases found.symm.trans again
  cases present

theorem Declares.listed (declares : Declares registers entry setting none) :
    ∃ items, optionItems entry = .ok items ∧ setting.options = items.map Tree.plain := by
  obtain ⟨part, found, items, all, written⟩ := has_iff.1 declares.choices.2.2
  refine ⟨items, by rw [optionItems, found]; exact all, ?_⟩
  rw [← List.map_id setting.options]
  exact (map_eq_map_of_forall₂ written fun _ _ own => own.2).symm

end Entry

/-- The entry is read to the setting, and to the field that the layout has for it. -/
def Becomes (d : Description) (entry : Tree) (setting : Setting) : Prop :=
  readSetting d.registers entry = .ok (setting, d.layout.get? setting.index)

section Loaded

variable {tree : Tree} {d : Description}

theorem get?_index_of_declares (sound : d.Sound) {entry : Tree} {setting : Setting}
    {mapped : Option Field} (declares : Declares d.registers entry setting mapped)
    (member : setting ∈ d.schema.toList) (placed : ∀ f, mapped = some f → f ∈ d.layout.toList) :
    d.layout.get? setting.index = mapped := by
  have paired := declares.paired
  cases mapped with
  | some f =>
    obtain ⟨_, same, _⟩ := paired
    rw [← same]
    exact Layout.get?_index sound.field_keyed (placed f rfl)
  | none =>
    have informational : setting.informational = true := paired
    obtain ⟨e, present, rfl⟩ := List.mem_map.1 member
    have passed : e.2.index ∈ d.schema.informationalIndices := by
      rw [sound.setting_keyed e present]
      exact List.mem_map_of_mem (List.mem_filter.2 ⟨present, informational⟩)
    cases found : d.layout.get? e.2.index with
    | none => rfl
    | some f => exact absurd passed (sound.not_informational found)

theorem becomes_of_ofTree (read : ofTree tree = .ok d) :
    ∃ items, settingItems tree = .ok items ∧
      List.Forall₂ (Becomes d) items d.schema.toList := by
  have sound := sound_of_ofTree read
  obtain ⟨_, ⟨part, given, settings⟩, _⟩ := parts_of_ofTree read
  obtain ⟨items, found, listed, all, collected⟩ := readSettings_eq_ok_iff.1 settings
  have settings : d.schema.toList = found.map (·.1) := collected.toList_settings
  have fields : d.layout.toList = found.filterMap (·.2) := collected.toList_fields
  refine ⟨items, ?_, ?_⟩
  · rw [settingItems, given]
    exact listed
  · have own : List.Forall₂ (fun pair entry => pair ∈ found ∧
        Declares d.registers entry pair.1 pair.2) found items :=
      (List.forall₂_and_left _ _).2 ⟨fun _ => id, all.each.flip⟩
    rw [settings, List.forall₂_map_right_iff]
    refine (own.imp ?_).flip
    rintro ⟨setting, mapped⟩ entry ⟨member, declares⟩
    have present : setting ∈ d.schema.toList := settings ▸ List.mem_map_of_mem member
    have inside : ∀ f, mapped = some f → f ∈ d.layout.toList := by
      rintro f rfl
      exact fields ▸ List.mem_filterMap.2 ⟨_, member, rfl⟩
    have mapped : d.layout.get? setting.index = mapped :=
      get?_index_of_declares sound declares present inside
    exact readSetting_eq_ok_iff.2 (mapped.symm ▸ declares)

end Loaded

/-- A mapped setting has an option for each key of its options, with the value declared for it. -/
def KeepsOptions (d : Description) (entry : Tree) (setting : Setting) : Prop :=
  ∀ f, d.layout.get? setting.index = some f → ∃ options, optionEntries entry = .ok options ∧
    setting.options.length = options.length ∧
    ∀ e ∈ options, ∃ n : Nat, e.2.toInt = .ok (n : Int) ∧ f.values.get? e.1.plain = some n

/-- The field of a mapped setting has a pragma text for each key of the pragmas, the declared one. -/
def KeepsPragmas (d : Description) (entry : Tree) (setting : Setting) : Prop :=
  ∀ f, d.layout.get? setting.index = some f → ∃ pragmas, pragmaEntries entry = .ok pragmas ∧
    f.pragmas.keys.length = pragmas.length ∧
    ∀ e ∈ pragmas, ∃ text, e.2 = .text text ∧ f.pragmas.get? e.1.plain = some text

/-- A setting without a field has the listed options, all different. -/
def KeepsListed (d : Description) (entry : Tree) (setting : Setting) : Prop :=
  d.layout.get? setting.index = none → ∃ items, optionItems entry = .ok items ∧
    setting.options = items.map Tree.plain ∧ (items.map Tree.plain).Nodup

/-- The keys that an entry with a field has under its options are written out differently. -/
def OptionsApart (entry : Tree) : Prop :=
  HasField entry → ∀ options, optionEntries entry = .ok options → (labelsOf options).Nodup

def PragmasApart (entry : Tree) : Prop :=
  HasField entry → ∀ pragmas, pragmaEntries entry = .ok pragmas → (labelsOf pragmas).Nodup

theorem exists_entries_iff {entry : Tree} {part : Except DescriptionFault (List (Scalar × Tree))}
    {entries : List (Scalar × Tree)} {kept : List (Scalar × Tree) → Prop} (present : HasField entry)
    (listed : part = .ok entries) (whole : kept entries ↔ (labelsOf entries).Nodup) :
    (∃ entries, part = .ok entries ∧ kept entries) ↔
      (HasField entry → ∀ entries, part = .ok entries → (labelsOf entries).Nodup) := by
  constructor
  · rintro ⟨_, found, all⟩ _ _ again
    cases listed.symm.trans found
    cases listed.symm.trans again
    exact whole.1 all
  · intro apart
    exact ⟨entries, listed, whole.2 (apart present entries listed)⟩

section Becomes

variable {d : Description} {entry : Tree} {setting : Setting} (becomes : Becomes d entry setting)

include becomes

theorem Becomes.declares : Declares d.registers entry setting (d.layout.get? setting.index) :=
  readSetting_eq_ok_iff.1 becomes

theorem Becomes.keepsOptions_iff : KeepsOptions d entry setting ↔ OptionsApart entry := by
  have declares := becomes.declares
  unfold KeepsOptions
  cases mapped : d.layout.get? setting.index with
  | none =>
    rw [mapped] at declares
    exact iff_of_true nofun fun present => absurd present declares.not_hasField
  | some f =>
    rw [mapped] at declares
    obtain ⟨options, pairs, listed, labelled, drafted⟩ := declares.options_of_field
    have own : f.values.keys = setting.options := declares.choices.2.2.1
    have whole := labelled.keeps_iff fun t n m first second =>
      Except.ok.inj (first.symm.trans second)
    rw [← drafted, Field.draft_keys, own] at whole
    simp only [Option.some.injEq, forall_eq']
    apply exists_entries_iff declares.hasField listed
    have drawn (label : String) :
        f.draft.values.get? label = (f.values.get? label).map fun (n : Nat) => (n : Int) :=
      OrderedMap.get?_mapValues f.values fun _ _ _ => rfl
    rw [← whole]
    apply and_congr_right'
    apply forall₂_congr
    intro e _
    rw [drawn]
    constructor
    · rintro ⟨n, number, found⟩
      exact ⟨n, number, by rw [found]; rfl⟩
    · rintro ⟨_, number, found⟩
      obtain ⟨n, known, rfl⟩ := Option.map_eq_some_iff.1 found
      exact ⟨n, number, known⟩

theorem Becomes.keepsPragmas_iff : KeepsPragmas d entry setting ↔ PragmasApart entry := by
  have declares := becomes.declares
  unfold KeepsPragmas
  cases mapped : d.layout.get? setting.index with
  | none =>
    rw [mapped] at declares
    exact iff_of_true nofun fun present => absurd present declares.not_hasField
  | some f =>
    rw [mapped] at declares
    obtain ⟨pragmas, pairs, listed, labelled, made⟩ := declares.pragmas_of_field
    have whole := labelled.keeps_iff fun t text other first second =>
      Scalar.text.inj (Tree.scalar.inj (first.symm.trans second))
    rw [← made] at whole
    simp only [Option.some.injEq, forall_eq']
    exact exists_entries_iff declares.hasField listed whole

theorem Becomes.keepsListed : KeepsListed d entry setting := by
  intro unmapped
  have declares := becomes.declares
  rw [unmapped] at declares
  obtain ⟨items, listed, own⟩ := declares.listed
  exact ⟨items, listed, own, own ▸ setting.options_nodup⟩

end Becomes

end Description
end ConfigWords
