import ConfigWords.Proofs.Description.Settings
import ConfigWords.Proofs.Description.Written
import ConfigWords.Proofs.Drafts

/-! Registers, parts and settings of a sheet, as they are read.
An entry that breaks no rule is read to the setting and the field that it says. The run over the
entries adds them one after the other; nothing is refused while indices differ and fields share no
bit. -/
namespace ConfigWords

open ConfigWords.Tree

def Choices.labels : Choices → List String
  | .mapped _ _ _ _ values _ => values.map (·.1)
  | .informational options => options

def Choices.isInformational : Choices → Bool
  | .mapped .. => false
  | .informational _ => true

inductive Choices.Fits (registers : List (String × Int)) : Choices → Prop
  | mapped {register field : String} {start width : Int} {values : List (String × Int)}
      {pragmas : List (String × String)} (declared : register ∈ registers.map (·.1))
      (start_nonneg : 0 ≤ start) (width_pos : 1 ≤ width) (reach : start + width ≤ 32)
      (fits : ∀ e ∈ values, 0 ≤ e.2 ∧ e.2 < Nat.pow 2 width.toNat)
      (texts_nodup : (pragmas.map (·.1)).Nodup)
      (pragma_known : ∀ e ∈ pragmas, e.1 ∈ values.map (·.1)) :
      Fits registers (.mapped register field start width values pragmas)
  | informational {options : List String} : Fits registers (.informational options)

namespace SettingEntry

def draft (e : SettingEntry) : Setting.Draft :=
  ⟨e.index, e.name, e.category, e.choices.labels, e.default, e.description,
    e.choices.isInformational⟩

def field? (e : SettingEntry) : Option Field.Draft :=
  match e.choices with
  | .mapped register field start width values pragmas =>
    some ⟨e.index, .text register, field, start, width, OrderedMap.ofList values,
      OrderedMap.ofList pragmas⟩
  | .informational _ => none

structure WellFormed (registers : List (String × Int)) (e : SettingEntry) : Prop where
  index_nonneg : 0 ≤ e.index
  labels_ne_nil : e.choices.labels ≠ []
  labels_nodup : e.choices.labels.Nodup
  default_mem : e.default ∈ e.choices.labels
  fits : e.choices.Fits registers

end SettingEntry

/-- The two fields have no bit of one register in common. -/
def Field.Draft.Apart (d e : Field.Draft) : Prop :=
  (d.register == e.register) = true → ∀ b : Int,
    ¬ ((d.start ≤ b ∧ b < d.start + d.width) ∧ e.start ≤ b ∧ b < e.start + e.width)

theorem Field.overlaps_of_apart {f g : Field} (apart : f.draft.Apart g.draft) :
    f.overlaps g = false := by
  rw [overlaps_eq_false_iff]
  intro same
  have first := apart (Scalar.agrees_iff.1 same).1 f.start
  have second := apart (Scalar.agrees_iff.1 same).1 g.start
  have here := f.width_pos
  have there := g.width_pos
  simp only [draft] at first second
  unfold stop
  omega

theorem Scalar.text_beq_false {s t : String} (other : s ≠ t) :
    (Scalar.text s == .text t) = false := by
  rw [Bool.eq_false_iff]
  intro same
  exact other (Key.text.inj (beq_iff.1 same))

theorem OrderedMap.entries_ofList_named {α V : Type} {name : α → String} {value : α → V}
    {items : List α} (names : (items.map name).Nodup) :
    (ofList (items.map fun a => (Scalar.text (name a), value a))).entries =
      items.map fun a => (.text (name a), value a) := by
  apply entries_ofList
  rw [List.pairwise_map]
  exact (List.pairwise_map.1 names).imp Scalar.text_beq_false

namespace Description

section Tables

variable {tree : Tree}

theorem readRegisters_of_written {registers : List (String × Int)} (present : registers ≠ [])
    (written : Maps (fun r => .text r.1) (fun r entry => entry.Has "address" (· = .int r.2))
      registers tree) :
    readRegisters tree = .ok (OrderedMap.ofList (registers.map fun r =>
      (.text r.1, { name := .text r.1, address := r.2 }))) := by
  obtain ⟨entries, rfl, forms⟩ := written
  have truth : (Tree.mapping entries).truth = true := by
    cases forms with
    | nil => exact (present rfl).elim
    | cons _ _ => rfl
  simp only [readRegisters, truth, Bool.not_true, Bool.false_eq_true, if_false, Tree.entries,
    ok_bind]
  rw [mapM_of_forall₂ (fun r => (.text r.1, { name := .text r.1, address := r.2 })) forms]
  · rfl
  · rintro r _ ⟨_, entry⟩ ⟨rfl, address⟩
    rw [address.int]
    rfl

theorem readVariants_of_written {parts : List PartEntry}
    (written : Maps (fun p => .text p.part) PartEntry.WrittenAs parts tree) :
    readVariants tree = .ok (OrderedMap.ofList (parts.map fun p =>
      (.text p.part, ⟨.text p.part, p.pins, p.flashKb, p.ramKb⟩))) := by
  obtain ⟨entries, rfl, forms⟩ := written
  simp only [readVariants, Tree.entries, ok_bind]
  rw [mapM_of_forall₂ (fun p => (.text p.part, ⟨.text p.part, p.pins, p.flashKb, p.ramKb⟩)) forms]
  · rfl
  · rintro p _ ⟨_, entry⟩ ⟨rfl, written⟩
    rw [written.pins.int, ok_bind, written.flashKb.int, ok_bind, written.ramKb.int]
    rfl

end Tables

section Fields

variable {index : Int} {registers : Registers} {entry options place : Tree}
  {register field : String} {start width : Int} {values : List (String × Int)}
  {pragmas : List (String × String)}

theorem readValues_of_written {labels : List (Scalar × Tree)}
    (forms : List.Forall₂ (fun e entry => entry.1 = .text e.1 ∧ entry.2 = .int e.2) values labels) :
    readValues labels = .ok (OrderedMap.ofList values) := by
  rw [readValues, mapM_of_forall₂ id forms]
  · rw [List.map_id]
    rfl
  · rintro e _ ⟨_, _⟩ ⟨rfl, rfl⟩
    rfl

theorem readPragmas_of_written {tree : Tree}
    (written : Maps (fun e => .text e.1) (fun e value => value = .text e.2) pragmas tree) :
    readPragmas index tree = .ok (OrderedMap.ofList pragmas) := by
  obtain ⟨entries, rfl, forms⟩ := written
  cases entries with
  | nil =>
    cases forms
    rfl
  | cons head later =>
    have truth : (Tree.mapping (head :: later)).truth = true := rfl
    simp only [readPragmas, truth, Bool.not_true, Bool.false_eq_true, if_false, Tree.entries,
      ok_bind]
    rw [mapM_of_forall₂ (fun e => e.2) forms, ok_bind, mapM_of_forall₂ (fun e => e.1) forms,
      ok_bind, ← List.zip_of_prod rfl rfl]
    · rfl
    · rintro e _ ⟨_, _⟩ ⟨rfl, rfl⟩
      rfl
    · rintro e _ ⟨_, _⟩ ⟨rfl, rfl⟩
      rfl

theorem readField_of_written
    (placed : Choices.PlacedAs register field start width place)
    (listed : Maps (fun e => .text e.1) (fun e value => value = .int e.2) values options)
    (texts : entry.HasOr "pragmas"
      (Maps (fun e => .text e.1) (fun e value => value = .text e.2) pragmas) (pragmas = []))
    (declared : registers.contains (.text register) = true) :
    readField index registers entry options place =
      (Field.Draft.mk index (.text register) field start width (OrderedMap.ofList values)
        (OrderedMap.ofList pragmas)).check.mapError fun fault => .entry (.field fault) := by
  obtain ⟨labels, rfl, forms⟩ := listed
  obtain ⟨target, found, rfl⟩ := placed.register.required
  obtain ⟨tree, given, read⟩ : ∃ tree, entry.optional "pragmas" .null = .ok tree ∧
      readPragmas index tree = .ok (OrderedMap.ofList pragmas) :=
    (texts.imp fun _ => readPragmas_of_written).optional fun none_given => by
      rw [none_given]
      rfl
  simp only [readField, found, ok_bind, readTarget, declared, if_true, placed.name.text,
    placed.start.int, placed.width.int, readValues_of_written forms, given, read]

end Fields

section Entries

variable {names : List (String × Int)} {registers : Registers} {e : SettingEntry} {tree : Tree}

theorem check_draft (wellFormed : e.WellFormed names) :
    ∃ setting, e.draft.check = .ok setting ∧ setting.draft = e.draft :=
  Setting.Draft.WellFormed.check {
    index_nonneg := wellFormed.index_nonneg
    options_ne_nil := wellFormed.labels_ne_nil
    options_nodup := wellFormed.labels_nodup
    default_mem := wellFormed.default_mem }

theorem check_field (wellFormed : e.WellFormed names) {draft : Field.Draft}
    (mapped : e.field? = some draft) : ∃ f, draft.check = .ok f ∧ f.draft = draft := by
  obtain ⟨index, name, category, description, default, choices⟩ := e
  have labels := wellFormed.labels_nodup
  cases wellFormed.fits with
  | informational => cases mapped
  | mapped declared start_nonneg width_pos reach fits texts_nodup pragma_known =>
    cases mapped
    have values := OrderedMap.entries_ofList_of_nodup labels
    have texts := OrderedMap.entries_ofList_of_nodup texts_nodup
    exact Field.Draft.WellFormed.check {
      start_nonneg := start_nonneg
      width_pos := width_pos
      reach := reach
      fits := by
        rw [values]
        simpa only [Word.span_eq] using fits
      pragma_known := by
        intro e member
        rw [texts] at member
        rw [OrderedMap.contains_eq_true_iff, OrderedMap.keys_ofList_of_nodup labels]
        exact pragma_known e member }

theorem keys_of_field? (wellFormed : e.WellFormed names) {f : Field}
    (mapped : e.field? = some f.draft) : f.values.keys = e.choices.labels := by
  obtain ⟨index, name, category, description, default, choices⟩ := e
  have labels := wellFormed.labels_nodup
  cases choices with
  | informational options => cases mapped
  | mapped register field start width values pragmas =>
    have drafted : (OrderedMap.ofList values).keys = f.draft.values.keys :=
      congrArg (fun draft => draft.values.keys) (Option.some.inj mapped)
    rw [← Field.draft_keys, ← drafted]
    exact OrderedMap.keys_ofList_of_nodup labels

theorem readChoices_of_written (declared : ∀ r ∈ names, registers.contains (.text r.1) = true)
    (wellFormed : e.WellFormed names) (written : e.choices.WrittenAs tree) :
    ∃ options flag field mapped, tree.required "options" = .ok options ∧
      tree.optional "informational" (.bool false) = .ok (.bool flag) ∧
      flag = e.choices.isInformational ∧ tree.optional "field" .null = .ok field ∧
      checkKind e.index flag field = .ok () ∧
      readMapped e.index registers tree options field = .ok mapped ∧
      readLabels options mapped = .ok e.choices.labels ∧ mapped.map Field.draft = e.field? := by
  have field : ∀ draft, e.field? = some draft → ∃ f, draft.check = .ok f ∧ f.draft = draft :=
    fun _ => check_field wellFormed
  have labels : ∀ f : Field, e.field? = some f.draft → f.values.keys = e.choices.labels :=
    fun _ => keys_of_field? wellFormed
  obtain ⟨index, name, category, description, default, choices⟩ := e
  have fits := wellFormed.fits
  cases written with
  | mapped counted placed options texts =>
    cases fits with
    | mapped known =>
      obtain ⟨r, member, rfl⟩ := List.mem_map.1 known
      obtain ⟨f, checked, drawn⟩ := field _ rfl
      obtain ⟨_, flag, rfl⟩ := counted.optional fun _ => rfl
      obtain ⟨options, given, listed⟩ := options.required
      obtain ⟨place, found, placed⟩ : ∃ place, tree.optional "field" .null = .ok place ∧ _ :=
        placed.hasOr.optional False.elim
      have present : isPresent place = true := by
        obtain ⟨_, _, rfl, _⟩ := placed.register
        rfl
      have read : readField index registers tree options place = .ok f := by
        rw [readField_of_written placed listed texts (declared r member), checked]
        rfl
      have keys := labels f (congrArg some drawn.symm)
      refine ⟨options, false, place, some f, given, flag, rfl, found, ?_, ?_, ?_,
        congrArg some drawn⟩
      · rw [checkKind, present]
        rfl
      · rw [readMapped, if_pos present, read]
        rfl
      · rw [readLabels, keys]
  | informational informational free listed =>
    obtain ⟨_, flag, rfl⟩ := informational.hasOr.optional False.elim
    obtain ⟨_, missing, rfl⟩ := free.optional fun _ => rfl
    obtain ⟨_, given, items, rfl, forms⟩ := listed.required
    refine ⟨_, true, .null, none, given, flag, rfl, missing, rfl, rfl, ?_, rfl⟩
    simp only [readLabels, Tree.items, ok_bind]
    rw [mapM_of_forall₂ id forms, List.map_id]
    · rfl
    · rintro option _ _ rfl
      rfl

theorem readSetting_of_written (declared : ∀ r ∈ names, registers.contains (.text r.1) = true)
    (wellFormed : e.WellFormed names) (written : e.WrittenAs tree) :
    ∃ setting mapped, readSetting registers tree = .ok (setting, mapped) ∧
      setting.draft = e.draft ∧ mapped.map Field.draft = e.field? := by
  obtain ⟨setting, checked, same⟩ := check_draft wellFormed
  obtain ⟨options, flag, field, mapped, given, informational, kind, placed, apart, read, labels,
    drawn⟩ := readChoices_of_written declared wellFormed written.choices
  refine ⟨setting, mapped, ?_, same, drawn⟩
  subst kind
  simp only [readSetting, written.index.int, ok_bind, given, informational, Tree.truth,
    Scalar.truth, placed, apart, read, labels, written.name.text, written.category.text,
    written.default.text, written.description.text]
  rw [SettingEntry.draft] at checked
  rw [checked]
  rfl

end Entries

/-- The tables have the settings and the fields of some entries, in their order. -/
structure Records (entries : List SettingEntry) (tables : Schema × Layout) : Prop where
  settings : (tables.1.settings.entries.map fun s => (s.1, s.2.draft)) =
    entries.map fun e => (e.index, e.draft)
  fields : (tables.2.fields.entries.map fun f => (f.1, f.2.draft)) =
    (entries.filterMap SettingEntry.field?).map fun f => (f.index, f)

section Run

variable {names : List (String × Int)} {registers : Registers} {entries : List SettingEntry}
  {trees : List Tree}

def Drawn (e : SettingEntry) (pair : Setting × Option Field) : Prop :=
  pair.1.draft = e.draft ∧ pair.2.map Field.draft = e.field?

theorem declares_of_written (declared : ∀ r ∈ names, registers.contains (.text r.1) = true)
    (written : List.Forall₂ SettingEntry.WrittenAs entries trees)
    (wellFormed : ∀ e ∈ entries, e.WellFormed names) :
    ∃ found, List.Forall₂ (fun tree pair => Declares registers tree pair.1 pair.2) trees found ∧
      List.Forall₂ Drawn entries found := by
  induction written with
  | nil => exact ⟨[], .nil, .nil⟩
  | cons head _ ih =>
    obtain ⟨first, others⟩ := List.forall_mem_cons.1 wellFormed
    obtain ⟨setting, mapped, read, drawn⟩ := readSetting_of_written declared first head
    obtain ⟨found, each, later⟩ := ih others
    exact ⟨(setting, mapped) :: found, .cons (readSetting_eq_ok_iff.1 read) each, .cons drawn later⟩

theorem fields_of_drawn {found : List (Setting × Option Field)}
    (drawn : List.Forall₂ Drawn entries found) :
    (found.filterMap (·.2)).map Field.draft = entries.filterMap SettingEntry.field? := by
  induction drawn with
  | nil => rfl
  | @cons e pair entries found head _ ih =>
    obtain ⟨setting, mapped⟩ := pair
    have own : mapped.map Field.draft = e.field? := head.2
    cases mapped with
    | none => rw [List.filterMap_cons_none own.symm, ← ih]; rfl
    | some f => rw [List.filterMap_cons_some own.symm, ← ih]; rfl

/-- Well-formed entries are all added, while indices differ and fields share no bit. -/
theorem foldlM_addSetting_of_written
    (declared : ∀ r ∈ names, registers.contains (.text r.1) = true)
    (written : List.Forall₂ SettingEntry.WrittenAs entries trees)
    (wellFormed : ∀ e ∈ entries, e.WellFormed names) (indices : (entries.map (·.index)).Nodup)
    (apart : (entries.filterMap SettingEntry.field?).Pairwise Field.Draft.Apart) :
    ∃ tables, trees.foldlM (addSetting registers) (Schema.empty, Layout.empty) = .ok tables ∧
      Records entries tables := by
  obtain ⟨found, each, drawn⟩ := declares_of_written declared written wellFormed
  have settings : (found.map fun pair => (pair.1.index, pair.1.draft)) =
      entries.map fun e => (e.index, e.draft) := by
    refine (map_eq_map_of_forall₂ drawn fun e pair own => ?_).symm
    exact Prod.ext (congrArg Setting.Draft.index own.1).symm own.1.symm
  have fields := fields_of_drawn drawn
  have all : DeclareAll registers trees found := {
    each := each
    indices := by
      have same : entries.map (·.index) = found.map (·.1.index) :=
        map_eq_map_of_forall₂ drawn fun e pair own => (congrArg Setting.Draft.index own.1).symm
      exact same ▸ indices
    apart := by
      rw [← fields, List.pairwise_map] at apart
      exact apart.imp Field.overlaps_of_apart }
  obtain ⟨tables, collected⟩ := all.collected
  refine ⟨tables, foldlM_addSetting_eq_ok_iff.2 ⟨found, all, collected⟩, ?_, ?_⟩
  · rw [collected.settings, List.map_map]
    exact settings
  · rw [collected.fields, List.map_map, ← fields, List.map_map]
    rfl

end Run

end Description
end ConfigWords
