import ConfigWords.Proofs.Recompiling

/-! What a snapshot may choose.
The compiler asks the fields, the user is shown the settings. In a description that is read the two
agree: an entry is reported exactly when the catalogue has no such setting, or when the setting is
not informational and the label is not among its options. -/
namespace ConfigWords

/-- The catalogue has the setting, and the label is an option of it or the setting is
informational. -/
def Schema.accepts (schema : Schema) (e : Int × String) : Bool :=
  (schema.get? e.1).any fun setting => setting.informational || setting.options.contains e.2

def Schema.sets (schema : Schema) (e : Int × String) : Bool :=
  schema.accepts e && !schema.informationalIndices.contains e.1

theorem Schema.mem_informationalIndices_iff {schema : Schema} {index : Int} :
    index ∈ schema.informationalIndices ↔
      ∃ setting, schema.get? index = some setting ∧ setting.informational = true := by
  simp [informationalIndices, get?, OrderedMap.get?_eq_some_iff]

theorem Field.encode?_eq_none_iff {f : Field} {label : String} :
    f.encode? label = none ↔ label ∉ f.values.keys := by
  rw [← OrderedMap.contains_eq_true_iff, OrderedMap.contains_eq_isSome, encode?]
  cases f.values.get? label <;> simp

namespace Description

/-- What becomes of an entry by the catalogue. The name in a report about a label is that of the
setting's field. -/
inductive Ruling (d : Description) : Int × String → Verdict → Prop
  | pass {index : Int} {label : String} {setting : Setting} :
    d.schema.get? index = some setting → setting.informational = true →
    Ruling d (index, label) .pass
  | setting {index : Int} {label : String} :
    d.schema.get? index = none → Ruling d (index, label) (.report (.unknownSetting index label))
  | option {index : Int} {label : String} {setting : Setting} {f : Field} :
    d.schema.get? index = some setting → setting.informational = false →
    label ∉ setting.options → d.layout.get? index = some f →
    Ruling d (index, label) (.report (.unknownOption index label f.name))
  | write {index : Int} {label : String} {setting : Setting} {f : Field} {value : Nat} :
    d.schema.get? index = some setting → setting.informational = false →
    label ∈ setting.options → d.layout.get? index = some f → f.encode? label = some value →
    Ruling d (index, label) (.write f value)

theorem Ruling.accepts_eq_false_iff {d : Description} {e : Int × String} {verdict : Verdict}
    (ruling : Ruling d e verdict) :
    d.schema.accepts e = false ↔ ∃ problem, verdict = .report problem := by
  cases ruling with
  | pass known kind => simp [Schema.accepts, known, kind]
  | setting unknown => simp [Schema.accepts, unknown]
  | option known kind foreign _ => simp [Schema.accepts, known, kind, foreign]
  | write known _ legal _ _ => simp [Schema.accepts, known, legal]

theorem Ruling.sets_of_write {d : Description} {e : Int × String} {f : Field} {value : Nat}
    (ruling : Ruling d e (.write f value)) : d.schema.sets e = true := by
  cases ruling with
  | write known kind legal _ _ =>
    simp [Schema.sets, Schema.accepts, Schema.mem_informationalIndices_iff, known, kind, legal]

section Loaded

variable {d : Description} (sound : d.Sound)

include sound

theorem Sound.setting_of_field {index : Int} {f : Field} (mapped : d.layout.get? index = some f) :
    ∃ setting, d.schema.get? index = some setting ∧ setting.informational = false ∧
      setting.options = f.values.keys := by
  obtain ⟨setting, known, options⟩ := sound.labels index f mapped
  have contained : d.layout.contains index = true :=
    OrderedMap.contains_iff_exists.2 ⟨f, mapped⟩
  obtain ⟨other, same, counted⟩ := (sound.mapped_iff index).1 contained
  rw [known] at same
  exact ⟨setting, known, Option.some.inj same ▸ counted, options⟩

theorem Sound.field_of_setting {index : Int} {setting : Setting}
    (known : d.schema.get? index = some setting) (counted : setting.informational = false) :
    ∃ f, d.layout.get? index = some f ∧ setting.options = f.values.keys := by
  have contained := (sound.mapped_iff index).2 ⟨setting, known, counted⟩
  obtain ⟨f, mapped⟩ := OrderedMap.contains_iff_exists.1 contained
  obtain ⟨other, same, options⟩ := sound.labels index f mapped
  rw [known] at same
  exact ⟨f, mapped, Option.some.inj same ▸ options⟩

theorem Sound.get?_eq_none {index : Int} (unknown : d.schema.get? index = none) :
    d.layout.get? index = none := by
  cases mapped : d.layout.get? index with
  | none => rfl
  | some f =>
    obtain ⟨setting, known, _⟩ := sound.setting_of_field mapped
    rw [unknown] at known
    cases known

theorem Sound.ruling (e : Int × String) : Ruling d e ((Device.compilerOf d).judge e.1 e.2) := by
  obtain ⟨index, label⟩ := e
  have passed : index ∈ (Device.compilerOf d).informational ↔
      ∃ setting, d.schema.get? index = some setting ∧ setting.informational = true :=
    Schema.mem_informationalIndices_iff
  cases known : d.schema.get? index with
  | none =>
    have unmapped : (Device.compilerOf d).layout.get? index = none := sound.get?_eq_none known
    simpa [Compiler.judge, passed, known, unmapped] using .setting known
  | some setting =>
    cases kind : setting.informational with
    | true => simpa [Compiler.judge, passed, known, kind] using .pass known kind
    | false =>
      obtain ⟨f, mapped, options⟩ := sound.field_of_setting known kind
      have field : (Device.compilerOf d).layout.get? index = some f := mapped
      cases encoded : f.encode? label with
      | none =>
        have foreign : label ∉ setting.options := options ▸ Field.encode?_eq_none_iff.1 encoded
        simpa [Compiler.judge, passed, known, kind, field, encoded] using
          .option known kind foreign mapped
      | some value =>
        have legal : label ∈ setting.options := by
          by_contra foreign
          rw [options, ← Field.encode?_eq_none_iff, encoded] at foreign
          cases foreign
        simpa [Compiler.judge, passed, known, kind, field, encoded] using
          .write known kind legal mapped encoded

theorem Sound.diagnostics_forall₂ (s : Snapshot) :
    List.Forall₂ (fun e problem => Ruling d e (.report problem))
      (s.entries.filter fun e => !d.schema.accepts e) ((Device.compilerOf d).diagnostics s) := by
  unfold Compiler.diagnostics
  induction s.entries with
  | nil => exact .nil
  | cons e rest ih =>
    have ruling := sound.ruling e
    have refused := ruling.accepts_eq_false_iff
    cases judged : (Device.compilerOf d).judge e.1 e.2 with
    | pass =>
      have accepted : d.schema.accepts e = true := by simpa [judged] using refused
      simpa [judged, accepted] using ih
    | report problem =>
      have rejected : d.schema.accepts e = false := by simpa [judged] using refused
      rw [judged] at ruling
      simp only [List.filter_cons, List.filterMap_cons, judged, rejected, Bool.not_false, if_true]
      exact .cons ruling ih
    | write f value =>
      have accepted : d.schema.accepts e = true := by simpa [judged] using refused
      simpa [judged, accepted] using ih

theorem Sound.get?_of_mem {f : Field} (member : f ∈ d.layout.toList) :
    d.layout.get? f.index = some f :=
  Layout.get?_index sound.field_keyed member

theorem Sound.diagnostics_filter (s : Snapshot) :
    (Device.compilerOf d).diagnostics (s.filter d.schema.sets) = [] := by
  have reported := sound.diagnostics_forall₂ (s.filter d.schema.sets)
  have unrefused : ((s.filter d.schema.sets).entries.filter fun e => !d.schema.accepts e) = [] := by
    rw [OrderedMap.filter, List.filter_filter, List.filter_eq_nil_iff]
    intro e _
    cases accepted : d.schema.accepts e <;> simp [Schema.sets, accepted]
  rw [unrefused] at reported
  exact List.forall₂_nil_left_iff.1 reported

end Loaded

variable {tree : Tree} {d : Description}

/-- Compiling reports, in the order of the snapshot, one problem for each entry that the catalogue
refuses. The entries that are refused or informational leave no trace in the image. -/
theorem diagnostics_by_schema (read : ofTree tree = .ok d) (s : Snapshot) :
    ∃ result again, (Device.compilerOf d).compile s = .ok result ∧
      List.Forall₂ (fun e problem => Ruling d e (.report problem))
        (s.entries.filter fun e => !d.schema.accepts e) result.diagnostics ∧
      (Device.compilerOf d).compile (s.filter d.schema.sets) = .ok again ∧
      again.image = result.image ∧ again.diagnostics = [] := by
  have sound := sound_of_ofTree read
  have declared : (Device.compilerOf d).Declared := sound.declared
  have kept : ∀ e ∈ s.entries, ∀ f value, (Device.compilerOf d).judge e.1 e.2 = .write f value →
      d.schema.sets e = true :=
    fun e _ _ _ judged => (judged ▸ sound.ruling e).sets_of_write
  refine ⟨_, _, Compiler.compile_eq declared s, sound.diagnostics_forall₂ s,
    Compiler.compile_eq declared (s.filter d.schema.sets), ?_, sound.diagnostics_filter s⟩
  refine congrArg Image.mk (OrderedMap.mapValues_congr fun e _ => ?_)
  rw [OrderedMap.filter, Compiler.settle_filter d.schema.sets s.entries kept]

/-- An index that is nowhere, a label that is no option, and an informational setting with a label of
its own. -/
def mixedChoices : Snapshot :=
  OrderedMap.ofList [(7, "x"), (9, "PLL Multiply by 200"), (4, "9 MHz")]

theorem diagnostics_by_schema_clock :
    ∃ d result, ofTree clockTree = .ok d ∧
      (Device.compilerOf d).compile mixedChoices = .ok result ∧
      List.Forall₂ (fun e problem => Ruling d e (.report problem))
        [(7, "x"), (9, "PLL Multiply by 200")] result.diagnostics := by
  obtain ⟨d, read, refused⟩ : ∃ d, ofTree clockTree = .ok d ∧
      (mixedChoices.entries.filter fun e => !d.schema.accepts e) =
        [(7, "x"), (9, "PLL Multiply by 200")] := ⟨_, rfl, rfl⟩
  obtain ⟨result, _, compiled, reported, _⟩ := diagnostics_by_schema read mixedChoices
  exact ⟨d, result, read, compiled, refused ▸ reported⟩

end Description
end ConfigWords
