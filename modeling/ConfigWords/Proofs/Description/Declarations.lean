import ConfigWords.Description.Settings
import ConfigWords.Proofs.Description.Keys
import ConfigWords.Proofs.Drafts
import ConfigWords.Proofs.Layout

/-! What the settings of a tree declare.
An entry is accepted exactly if there is a setting with what stands under the keys of the entry, and
unless it is informational a field with the labels of the setting. The entries together are accepted
if no index comes twice and no two fields overlap. -/
namespace ConfigWords

section Labels

variable {V : Type} {value : Tree → V → Prop}

/-- Each label is a key written out, and stands with the value under the key. -/
def Labelled (value : Tree → V → Prop) : List (Scalar × Tree) → List (String × V) → Prop :=
  List.Forall₂ fun e pair => (Tree.scalar e.1).Spells pair.1 ∧ value e.2 pair.2

/-- A mapping that gives the table. Of keys that are written out alike the last one counts. -/
def Tabulates (value : Tree → V → Prop) (table : OrderedMap String V) (part : Tree) : Prop :=
  ∃ entries pairs, part = .mapping entries ∧ Labelled value entries pairs ∧
    table = OrderedMap.ofList pairs

theorem tabulates_mapping_iff {table : OrderedMap String V} {entries : List (Scalar × Tree)} :
    Tabulates value table (.mapping entries) ↔
      ∃ pairs, Labelled value entries pairs ∧ table = OrderedMap.ofList pairs := by
  simp [Tabulates]

end Labels

namespace Schema

theorem eq_iff_entries {schema other : Schema} :
    schema = other ↔ schema.settings.entries = other.settings.entries := by
  refine ⟨fun same => same ▸ rfl, fun same => ?_⟩
  obtain ⟨settings⟩ := schema
  exact congrArg mk (OrderedMap.ext_entries same)

theorem add_eq_ok_iff {schema next : Schema} {setting : Setting} :
    schema.add setting = .ok next ↔ schema.settings.contains setting.index = false ∧
      next.settings.entries = schema.settings.entries ++ [(setting.index, setting)] := by
  unfold add
  cases taken : schema.settings.contains setting.index with
  | true => simp
  | false =>
    rw [← OrderedMap.entries_insert_of_fresh taken]
    simp [eq_iff_entries, eq_comm]

end Schema

namespace Description

open ConfigWords.Tree

/-- The place of a field, in a register that is declared. -/
structure PlacesField (registers : Registers) (f : Field) (place : Tree) : Prop where
  register : place.Has "register" (· = .scalar f.register)
  declared : registers.contains f.register = true
  name : place.Has "name" (·.Spells f.name)
  start : place.Has "bit_start" (·.toInt = .ok (f.start : Int))
  width : place.Has "bit_width" (·.toInt = .ok (f.width : Int))

/-- The pragma texts by label; what counts as false gives none. -/
def ListsPragmas (pragmas : OrderedMap String String) (part : Tree) : Prop :=
  if part.truth then Tabulates (fun t text => t = .text text) pragmas part
  else pragmas = OrderedMap.empty

structure DeclaresField (registers : Registers) (entry : Tree) (f : Field) : Prop where
  place : entry.Has "field" (PlacesField registers f)
  values : entry.Has "options" (Tabulates (fun t n => t.toInt = .ok n) f.draft.values)
  pragmas : entry.HasOr "pragmas" (ListsPragmas f.pragmas) (f.pragmas = OrderedMap.empty)

/-- The setting has the labels of its field, or else it is informational and its options are
listed. -/
def DeclaresChoices (registers : Registers) (entry : Tree) (setting : Setting) :
    Option Field → Prop
  | some f => setting.informational = false ∧ f.index = setting.index ∧
      f.values.keys = setting.options ∧ DeclaresField registers entry f
  | none => setting.informational = true ∧ entry.HasOr "field" (· = .null) True ∧
      entry.Has "options" fun part => ∃ items, part.items = .ok items ∧
        List.Forall₂ Tree.Spells items setting.options

structure Declares (registers : Registers) (entry : Tree) (setting : Setting)
    (mapped : Option Field) : Prop where
  index : entry.Has "index" (·.toInt = .ok setting.index)
  name : entry.Has "name" (·.Spells setting.name)
  category : entry.HasOr "category" (·.Spells setting.category) ("General" = setting.category)
  default : entry.Has "default" (·.Spells setting.default)
  description : entry.HasOr "description" (·.Spells setting.description) ("" = setting.description)
  informational : entry.HasOr "informational" (·.truth = setting.informational)
    (false = setting.informational)
  choices : DeclaresChoices registers entry setting mapped

theorem readTarget_eq_ok_iff {index : Int} {registers : Registers} {tree : Tree} {name : Scalar} :
    readTarget index registers tree = .ok name ↔
      tree = .scalar name ∧ registers.contains name = true := by
  cases tree with
  | scalar other =>
    unfold readTarget
    dsimp only
    split
    · rename_i declared
      simp only [Except.ok.injEq, scalar.injEq]
      exact ⟨fun same => ⟨same, same ▸ declared⟩, fun found => found.1⟩
    · rename_i foreign
      refine iff_of_false (by simp) ?_
      rintro ⟨same, declared⟩
      exact foreign (scalar.inj same ▸ declared)
  | list _ => simp [readTarget]
  | mapping _ => simp [readTarget]

theorem checkKind_eq_ok_iff {index : Int} {informational : Bool} {field : Tree} {u : Unit} :
    checkKind index informational field = .ok u ↔ informational ≠ isPresent field := by
  unfold checkKind
  split <;> simp_all

theorem readValues_eq_ok_iff {labels : List (Scalar × Tree)} {values : OrderedMap String Int} :
    readValues labels = .ok values ↔
      Tabulates (fun t n => t.toInt = .ok n) values (.mapping labels) := by
  have each (e : Scalar × Tree) (pair : String × Int) :
      (do
        let label ← (Tree.scalar e.1).written
        return (label, ← e.2.integer)) = .ok pair ↔
      (Tree.scalar e.1).Spells pair.1 ∧ e.2.toInt = .ok pair.2 := by
    simp only [bind_eq_ok, pure_eq_ok, written_eq_ok_iff, integer, mapError_eq_ok]
    constructor
    · rintro ⟨label, spelled, n, number, rfl⟩
      exact ⟨spelled, number⟩
    · rintro ⟨spelled, number⟩
      exact ⟨pair.1, spelled, pair.2, number, rfl⟩
  rw [readValues, tabulates_mapping_iff, bind_eq_ok]
  simp only [mapM_eq_ok_iff, each, pure_eq_ok, Labelled]
  exact exists_congr fun pairs => and_congr_right' eq_comm

theorem readPragma_eq_ok_iff {index : Int} {e : Scalar × Tree} {text : String} :
    readPragma index e = .ok text ↔ e.2 = .text text := by
  unfold readPragma
  split <;> simp_all

theorem readPragmas_eq_ok_iff {index : Int} {part : Tree} {pragmas : OrderedMap String String} :
    readPragmas index part = .ok pragmas ↔ ListsPragmas pragmas part := by
  unfold readPragmas ListsPragmas
  cases given : part.truth with
  | false => exact pure_eq_ok.trans eq_comm
  | true =>
    simp only [Bool.not_true, Bool.false_eq_true, if_false, if_true, bind_eq_ok, pure_eq_ok,
      mapM_eq_ok_iff, readPragma_eq_ok_iff, written_eq_ok_iff]
    constructor
    · rintro ⟨entries, listed, texts, valued, labels, named, rfl⟩
      exact ⟨entries, _, entries_eq_ok_iff.1 listed, forall₂_pairs named valued, rfl⟩
    · rintro ⟨entries, pairs, rfl, labelled, rfl⟩
      refine ⟨entries, rfl, pairs.map (·.2), ?_, pairs.map (·.1), ?_, ?_⟩
      · exact List.forall₂_map_right_iff.2 (labelled.imp fun _ _ both => both.2)
      · exact List.forall₂_map_right_iff.2 (labelled.imp fun _ _ both => both.1)
      · rw [List.zip_map', List.map_id']

theorem readField_eq_ok_iff {index : Int} {registers : Registers} {entry options field : Tree}
    {f : Field} :
    readField index registers entry options field = .ok f ↔
      f.index = index ∧ PlacesField registers f field ∧
        Tabulates (fun t n => t.toInt = .ok n) f.draft.values options ∧
        entry.HasOr "pragmas" (ListsPragmas f.pragmas) (f.pragmas = OrderedMap.empty) := by
  have left : f.pragmas = OrderedMap.empty ↔ ListsPragmas f.pragmas .null := Iff.rfl
  cases options with
  | mapping labels =>
    simp only [readField, bind_eq_ok, mapError_eq_ok, requiredText_eq_ok_iff,
      requiredInt_eq_ok_iff, readTarget_eq_ok_iff, readValues_eq_ok_iff, readPragmas_eq_ok_iff,
      Field.Draft.check_eq_ok_iff]
    constructor
    · rintro ⟨_, found, register, ⟨rfl, declared⟩, name, named, start, placed, width, sized, values,
        valued, part, given, pragmas, listed, drafted⟩
      simp only [Field.draft, Field.Draft.mk.injEq] at drafted
      obtain ⟨rfl, rfl, rfl, rfl, rfl, rfl, rfl⟩ := drafted
      exact ⟨rfl, ⟨has_iff.2 ⟨_, found, rfl⟩, declared, named, placed, sized⟩, valued,
        (hasOr_iff left).2 ⟨part, given, listed⟩⟩
    · rintro ⟨rfl, places, valued, pragmas⟩
      obtain ⟨_, found, rfl⟩ := has_iff.1 places.register
      obtain ⟨part, given, listed⟩ := (hasOr_iff left).1 pragmas
      exact ⟨_, found, f.register, ⟨rfl, places.declared⟩, f.name, places.name, f.start,
        places.start, f.width, places.width, f.draft.values, valued, part, given, f.pragmas, listed,
        rfl⟩
  | scalar _ =>
    constructor
    · rintro ⟨⟩
    · rintro ⟨_, _, ⟨_, _, shape, _⟩, _⟩
      cases shape
  | list _ =>
    constructor
    · rintro ⟨⟩
    · rintro ⟨_, _, ⟨_, _, shape, _⟩, _⟩
      cases shape

theorem isPresent_eq_false_iff {tree : Tree} : isPresent tree = false ↔ tree = .null := by
  unfold isPresent
  split <;> simp_all

section Entry

variable {registers : Registers} {entry : Tree} {setting : Setting} {mapped : Option Field}

theorem declaresChoices_iff {options field : Tree} (given : entry.required "options" = .ok options)
    (placed : entry.optional "field" .null = .ok field) :
    DeclaresChoices registers entry setting mapped ↔
      setting.informational ≠ isPresent field ∧
        readMapped setting.index registers entry options field = .ok mapped ∧
        readLabels options mapped = .ok setting.options := by
  have has (form : Tree → Prop) : entry.Has "options" form ↔ form options := by
    simp [has_iff, given]
  cases mapped with
  | none =>
    have absent : entry.HasOr "field" (· = .null) True ↔ isPresent field = false := by
      have found : entry.HasOr "field" (· = .null) True ↔
          ∃ value, entry.optional "field" .null = .ok value ∧ value = .null :=
        hasOr_iff (iff_of_true trivial rfl)
      simp [found, placed, isPresent_eq_false_iff]
    have unread : readMapped setting.index registers entry options field = .ok none ↔
        isPresent field = false := by
      unfold readMapped
      cases isPresent field <;> simp [map_eq_ok]
    have listed : readLabels options none = .ok setting.options ↔
        ∃ items, options.items = .ok items ∧ List.Forall₂ Spells items setting.options := by
      simp only [readLabels, bind_eq_ok, mapM_eq_ok_iff, written_eq_ok_iff]
    simp only [DeclaresChoices, has, absent, unread, listed]
    cases setting.informational <;> cases isPresent field <;> simp
  | some f =>
    have present : entry.Has "field" (PlacesField registers f) ↔
        isPresent field = true ∧ PlacesField registers f field := by
      rw [has_iff]
      constructor
      · rintro ⟨_, found, places⟩
        cases (optional_of_required found).symm.trans placed
        obtain ⟨_, _, rfl, _⟩ := places.register
        exact ⟨rfl, places⟩
      · rintro ⟨present, places⟩
        have other : field ≠ .null := by
          rintro rfl
          cases present
        exact ⟨field, required_of_optional placed other, places⟩
    have read : readMapped setting.index registers entry options field = .ok (some f) ↔
        isPresent field = true ∧
          readField setting.index registers entry options field = .ok f := by
      unfold readMapped
      cases isPresent field <;> simp [map_eq_ok]
    have field_iff : DeclaresField registers entry f ↔ isPresent field = true ∧
        PlacesField registers f field ∧
        Tabulates (fun t n => t.toInt = .ok n) f.draft.values options ∧
        entry.HasOr "pragmas" (ListsPragmas f.pragmas) (f.pragmas = OrderedMap.empty) := by
      rw [← and_assoc, ← present, ← has (Tabulates _ _)]
      constructor
      · rintro ⟨place, values, pragmas⟩
        exact ⟨place, values, pragmas⟩
      · rintro ⟨place, values, pragmas⟩
        exact ⟨place, values, pragmas⟩
    simp only [DeclaresChoices, field_iff, read, readField_eq_ok_iff, readLabels, Except.ok.injEq]
    cases setting.informational <;> cases isPresent field <;> simp
    tauto

theorem readSetting_eq_ok_iff :
    readSetting registers entry = .ok (setting, mapped) ↔
      Declares registers entry setting mapped := by
  simp only [readSetting, bind_eq_ok, pure_eq_ok, mapError_eq_ok, Prod.mk.injEq,
    requiredInt_eq_ok_iff, requiredText_eq_ok_iff, optionalText_eq_ok_iff,
    Setting.Draft.check_eq_ok_iff]
  constructor
  · rintro ⟨index, numbered, options, given, flag, flagged, field, placed, u, kind, read, mapping,
      labels, listed, name, named, category, sorted, default, chosen, description, described, made,
      drafted, rfl, rfl⟩
    simp only [Setting.draft, Setting.Draft.mk.injEq] at drafted
    obtain ⟨rfl, rfl, rfl, rfl, rfl, rfl, flag_eq⟩ := drafted
    rw [← flag_eq, checkKind_eq_ok_iff] at kind
    exact {
      index := numbered
      name := named
      category := sorted
      default := chosen
      description := described
      informational := (hasOr_iff Iff.rfl).2 ⟨flag, flagged, flag_eq.symm⟩
      choices := (declaresChoices_iff given placed).2 ⟨kind, mapping, listed⟩ }
  · intro declares
    obtain ⟨options, given⟩ : ∃ options, entry.required "options" = .ok options := by
      obtain - | f := mapped
      · obtain ⟨options, given, _⟩ := has_iff.1 declares.choices.2.2
        exact ⟨options, given⟩
      · obtain ⟨options, given, _⟩ := has_iff.1 declares.choices.2.2.2.values
        exact ⟨options, given⟩
    obtain ⟨flag, flagged, truth⟩ :
        ∃ flag, entry.optional "informational" (.bool false) = .ok flag ∧
          flag.truth = setting.informational :=
      declares.informational.optional fun omitted => omitted
    obtain ⟨field, placed⟩ : ∃ field, entry.optional "field" .null = .ok field := by
      obtain ⟨entries, _, rfl, _⟩ := declares.index
      exact ⟨_, rfl⟩
    obtain ⟨kind, mapping, listed⟩ := (declaresChoices_iff given placed).1 declares.choices
    rw [← truth] at kind
    exact ⟨setting.index, declares.index, options, given, flag, flagged, field, placed, (),
      checkKind_eq_ok_iff.2 kind, mapped, mapping, setting.options, listed, setting.name,
      declares.name, setting.category, declares.category, setting.default, declares.default,
      setting.description, declares.description, setting, by rw [truth]; rfl, rfl, rfl⟩

end Entry

section Entries

variable {registers : Registers} {items : List Tree} {found : List (Setting × Option Field)}
  {tables next : Schema × Layout} {entry : Tree}

/-- Every entry declares its own, no index comes twice and no two fields overlap. -/
structure DeclareAll (registers : Registers) (items : List Tree)
    (found : List (Setting × Option Field)) : Prop where
  each : List.Forall₂ (fun entry pair => Declares registers entry pair.1 pair.2) items found
  indices : (found.map (·.1.index)).Nodup
  apart : (found.filterMap (·.2)).Pairwise fun f g => f.overlaps g = false

structure Collected (found : List (Setting × Option Field)) (tables : Schema × Layout) : Prop where
  settings : tables.1.settings.entries = found.map fun pair => (pair.1.index, pair.1)
  fields : tables.2.fields.entries = (found.filterMap (·.2)).map fun f => (f.index, f)

theorem Collected.ext (one : Collected found tables) (other : Collected found next) :
    tables = next :=
  Prod.ext (Schema.eq_iff_entries.2 (one.settings.trans other.settings.symm))
    (Layout.eq_iff_entries.2 (one.fields.trans other.fields.symm))

theorem Declares.index_of_field {setting : Setting} {f : Field}
    (declares : Declares registers entry setting (some f)) : f.index = setting.index :=
  declares.choices.2.1

theorem DeclareAll.sublist (all : DeclareAll registers items found) :
    ((found.filterMap (·.2)).map (·.index)).Sublist (found.map (·.1.index)) := by
  have each := all.each
  clear all
  induction each with
  | nil => exact .slnil
  | @cons entry pair items found declares _ ih =>
    obtain ⟨setting, - | f⟩ := pair
    · exact ih.cons _
    · have same : f.index = setting.index := declares.index_of_field
      simpa [same] using ih

theorem DeclareAll.collected (all : DeclareAll registers items found) :
    ∃ tables, Collected found tables := by
  have settings : ((found.map fun pair => (pair.1.index, pair.1)).map (·.1)).Nodup := by
    rw [List.map_map]
    exact all.indices
  have fields : (((found.filterMap (·.2)).map fun f => (f.index, f)).map (·.1)).Nodup := by
    rw [List.map_map]
    exact all.sublist.nodup all.indices
  exact ⟨(⟨OrderedMap.ofList _⟩, ⟨OrderedMap.ofList _⟩),
    OrderedMap.entries_ofList_of_nodup settings, OrderedMap.entries_ofList_of_nodup fields⟩

theorem Collected.settings_contains_iff (collected : Collected found tables) {index : Int} :
    tables.1.settings.contains index = true ↔ index ∈ found.map (·.1.index) := by
  rw [OrderedMap.contains_eq_true_iff, OrderedMap.keys, collected.settings, List.map_map]
  rfl

theorem Collected.fields_contains_iff (collected : Collected found tables) {index : Int} :
    tables.2.contains index = true ↔ index ∈ (found.filterMap (·.2)).map (·.index) := by
  rw [Layout.contains, OrderedMap.contains_eq_true_iff, OrderedMap.keys, collected.fields,
    List.map_map]
  rfl

theorem Collected.toList_settings (collected : Collected found tables) :
    tables.1.toList = found.map (·.1) := by
  rw [Schema.toList, OrderedMap.values, collected.settings, List.map_map]
  rfl

theorem Collected.toList_fields (collected : Collected found tables) :
    tables.2.toList = found.filterMap (·.2) := by
  rw [Layout.toList, OrderedMap.values, collected.fields, List.map_map]
  exact List.map_id _

theorem addSetting_eq_ok_iff :
    addSetting registers tables entry = .ok next ↔
      ∃ setting mapped, Declares registers entry setting mapped ∧
        tables.1.add setting = .ok next.1 ∧
        match mapped with
        | none => tables.2 = next.2
        | some f => tables.2.add f = .ok next.2 := by
  simp only [addSetting, placeSetting, bind_eq_ok, mapError_eq_ok, Prod.exists,
    readSetting_eq_ok_iff]
  obtain ⟨settings, fields⟩ := next
  refine exists_congr fun setting => exists_congr fun mapped => and_congr_right' ?_
  cases mapped with
  | none => simp [pure_eq_ok]
  | some f => simp [map_eq_ok, mapError_eq_ok]

theorem declareAll_append_iff {pair : Setting × Option Field} :
    DeclareAll registers (items ++ [entry]) (found ++ [pair]) ↔
      DeclareAll registers items found ∧ Declares registers entry pair.1 pair.2 ∧
        pair.1.index ∉ found.map (·.1.index) ∧
        ∀ f ∈ pair.2, ∀ g ∈ found.filterMap (·.2), f.overlaps g = false := by
  have each : List.Forall₂ (fun entry pair => Declares registers entry pair.1 pair.2)
      (items ++ [entry]) (found ++ [pair]) ↔
      List.Forall₂ (fun entry pair => Declares registers entry pair.1 pair.2) items found ∧
        Declares registers entry pair.1 pair.2 := by
    rw [← List.forall₂_reverse_iff, List.reverse_concat, List.reverse_concat, List.forall₂_cons,
      List.forall₂_reverse_iff, and_comm]
  have indices : ((found ++ [pair]).map (·.1.index)).Nodup ↔
      (found.map (·.1.index)).Nodup ∧ pair.1.index ∉ found.map (·.1.index) := by
    rw [List.map_append, List.nodup_append_comm]
    simp [and_comm]
  have apart : ((found ++ [pair]).filterMap (·.2)).Pairwise (fun f g => f.overlaps g = false) ↔
      (found.filterMap (·.2)).Pairwise (fun f g => f.overlaps g = false) ∧
        ∀ f ∈ pair.2, ∀ g ∈ found.filterMap (·.2), f.overlaps g = false := by
    obtain ⟨setting, - | f⟩ := pair
    · simp
    · simp [List.pairwise_append, Field.overlaps_comm f]
  constructor
  · rintro ⟨declared, fresh, disjoint⟩
    obtain ⟨before, last⟩ := each.1 declared
    obtain ⟨nodup, new⟩ := indices.1 fresh
    obtain ⟨pairwise, clear⟩ := apart.1 disjoint
    exact ⟨⟨before, nodup, pairwise⟩, last, new, clear⟩
  · rintro ⟨⟨before, nodup, pairwise⟩, last, new, clear⟩
    exact ⟨each.2 ⟨before, last⟩, indices.2 ⟨nodup, new⟩, apart.2 ⟨pairwise, clear⟩⟩

theorem collected_append_iff (collected : Collected found tables)
    {pair : Setting × Option Field} :
    Collected (found ++ [pair]) next ↔
      next.1.settings.entries = tables.1.settings.entries ++ [(pair.1.index, pair.1)] ∧
      next.2.fields.entries = tables.2.fields.entries ++ pair.2.toList.map fun f => (f.index, f) := by
  rw [collected.settings, collected.fields]
  have mapped : [pair].filterMap (·.2) = pair.2.toList := by
    obtain ⟨setting, - | f⟩ := pair <;> rfl
  constructor
  · rintro ⟨settings, fields⟩
    rw [settings, fields]
    simp [← mapped]
  · rintro ⟨settings, fields⟩
    exact ⟨by rw [settings]; simp, by rw [fields]; simp [← mapped]⟩

/-- One more entry is added exactly if it declares what goes with all before it. -/
theorem Collected.addSetting_eq_ok_iff (collected : Collected found tables)
    (all : DeclareAll registers items found) :
    addSetting registers tables entry = .ok next ↔
      ∃ pair, DeclareAll registers (items ++ [entry]) (found ++ [pair]) ∧
        Collected (found ++ [pair]) next := by
  rw [Description.addSetting_eq_ok_iff, Prod.exists]
  refine exists_congr fun setting => exists_congr fun mapped => ?_
  rw [declareAll_append_iff, collected_append_iff collected, Schema.add_eq_ok_iff]
  simp only [all, true_and, and_assoc]
  refine and_congr_right fun declares => ?_
  rw [← collected.settings_contains_iff, Bool.not_eq_true, and_congr_right_iff]
  intro free
  cases mapped with
  | none =>
    simp only [Layout.eq_iff_entries, eq_comm (a := tables.2.fields.entries)]
    simp
  | some f =>
    have unplaced : tables.2.contains f.index = false := by
      rw [Bool.eq_false_iff]
      intro taken
      rw [collected.fields_contains_iff] at taken
      have known := all.sublist.subset taken
      rw [declares.index_of_field, ← collected.settings_contains_iff, free] at known
      cases known
    have inserted := OrderedMap.entries_insert_of_fresh (v := f) unplaced
    simp [Layout.add_eq_ok_iff, collected.toList_fields, unplaced, Layout.eq_iff_entries, inserted,
      and_left_comm]

theorem foldlM_addSetting_eq_ok_iff :
    items.foldlM (addSetting registers) (Schema.empty, Layout.empty) = .ok tables ↔
      ∃ found, DeclareAll registers items found ∧ Collected found tables := by
  induction items using List.reverseRecOn generalizing tables with
  | nil =>
    have start : Collected [] (Schema.empty, Layout.empty) := ⟨rfl, rfl⟩
    rw [List.foldlM_nil, pure_eq_ok]
    constructor
    · rintro rfl
      exact ⟨[], ⟨.nil, .nil, .nil⟩, start⟩
    · rintro ⟨found, all, collected⟩
      cases all.each
      exact start.ext collected
  | append_singleton items entry ih =>
    rw [List.foldlM_append, bind_eq_ok]
    constructor
    · rintro ⟨next, run, added⟩
      obtain ⟨found, all, collected⟩ := ih.1 run
      obtain ⟨pair, more, grown⟩ := (collected.addSetting_eq_ok_iff all).1 (by simpa using added)
      exact ⟨found ++ [pair], more, grown⟩
    · rintro ⟨found, more, grown⟩
      obtain rfl | ⟨found, pair, rfl⟩ := List.eq_nil_or_concat' found
      · simpa using more.each.length_eq
      · have all := (declareAll_append_iff.1 more).1
        obtain ⟨next, collected⟩ := all.collected
        refine ⟨next, ih.2 ⟨found, all, collected⟩, ?_⟩
        simpa using (collected.addSetting_eq_ok_iff all).2 ⟨pair, more, grown⟩

/-- The settings are read exactly if their entries can stand together. -/
theorem readSettings_eq_ok_iff {part : Tree} :
    readSettings registers part = .ok tables ↔
      ∃ items found, part.items = .ok items ∧ DeclareAll registers items found ∧
        Collected found tables := by
  simp only [readSettings, bind_eq_ok, foldlM_addSetting_eq_ok_iff, exists_and_left]

end Entries

end Description
end ConfigWords
