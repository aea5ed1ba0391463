import ConfigWords.Proofs.Layout
import ConfigWords.Proofs.Render.Pragmas

/-! Pragma lines in blocks.
A register has a block if it has lines. The lines of a block belong to the settings whose fields
stand in its register, in the order of the layout, and no setting has two lines. -/
namespace ConfigWords

theorem Scalar.beq_text_iff {name : Scalar} {text : String} :
    (name == .text text) = true ↔ name = .text text := by
  rw [beq_iff]
  constructor
  · intro same
    cases name with
    | text other => rw [Key.text.inj same]
    | float x => cases x <;> cases same
    | _ => cases same
  · rintro rfl
    rfl

theorem Scalar.agrees_text_iff {name : Scalar} {text : String} :
    name.agrees (.text text) = true ↔ name = .text text := by
  rw [agrees_iff, beq_text_iff]
  refine and_iff_left_of_imp ?_
  rintro rfl
  rfl

namespace Render

open Text

/-- The pragma text of a label: the listed one, or for the multiplier's field the one that the label
spells out. -/
inductive HasText (f : Field) (label : String) : String → Prop
  | listed (value : String) (known : f.pragmas.get? label = some value) : HasText f label value
  | spelled (digits : List Char) (unlisted : f.pragmas.get? label = none)
      (named : f.name = "FPLLMULT") (nonempty : digits ≠ [])
      (decimal : ∀ c ∈ digits, isDigit c = true)
      (text : label = "PLL Multiply by " ++ String.ofList digits) :
      HasText f label ("MUL_" ++ String.ofList digits)

/-- The snapshot chooses a label with a pragma text for a mapped setting, and the line says so. -/
def Shows (s : Snapshot) (layout : Layout) (index : Int) (line : String) : Prop :=
  ∃ f label value, layout.get? index = some f ∧ s.get? index = some label ∧
    HasText f label value ∧ line = "#pragma config " ++ f.name ++ " = " ++ value

theorem eq_append_ofList_iff {text head : String} {rest : List Char} :
    text = head ++ String.ofList rest ↔ text.toList = head.toList ++ rest := by
  rw [← String.toList_inj, String.toList_append, String.toList_ofList]

theorem pragmaValue?_eq_some_iff {f : Field} {label value : String} :
    pragmaValue? f label = some value ↔ HasText f label value := by
  unfold pragmaValue? Field.pragma?
  constructor
  · intro found
    cases listed : f.pragmas.get? label with
    | some text =>
      rw [listed] at found
      cases found
      exact .listed _ listed
    | none =>
      simp only [listed] at found
      split at found
      · rename_i named
        obtain ⟨digits, spelled, rfl⟩ := Option.map_eq_some_iff.1 found
        obtain ⟨nonempty, decimal, text⟩ := multiplierDigits?_eq_some_iff.1 spelled
        exact .spelled digits listed named nonempty decimal (eq_append_ofList_iff.2 text)
      · cases found
  · rintro (⟨_, listed⟩ | ⟨digits, unlisted, named, nonempty, decimal, rfl⟩)
    · rw [listed]
    · have spelled : multiplierDigits? ("PLL Multiply by " ++ String.ofList digits) = some digits :=
        multiplierDigits?_eq_some_iff.2 ⟨nonempty, decimal, eq_append_ofList_iff.1 rfl⟩
      simp only [unlisted, spelled]
      exact if_pos named

/-- The lines of one register, each with the index of its setting. -/
structure Block where
  register : String
  lines : List (Int × String)

namespace Block

def indices (b : Block) : List Int := b.lines.map (·.1)

def texts (b : Block) : List String := b.lines.map (·.2)

def paragraph (b : Block) : List String := ("// " ++ b.register) :: b.texts

end Block

section Blocks

variable (s : Snapshot) (layout : Layout)

def settingLine? (f : Field) : Option (Int × String) :=
  (pragmaLine? s f).map fun line => (f.index, line)

def settingLines (register : Scalar) : List (Int × String) :=
  (layout.toList.filter fun f => f.register.agrees register).filterMap (settingLine? s)

def block? (register : Scalar) : Option Block :=
  if (settingLines s layout register).isEmpty then none
  else some ⟨register.plain, settingLines s layout register⟩

def blocksOf (image : Image) : List Block := image.words.keys.filterMap (block? s layout)

theorem pragmaBlock_eq (register : Scalar) :
    pragmaBlock s layout register =
      ((block? s layout register).map fun b => b.paragraph ++ [""]).getD [] := by
  have lines : (settingLines s layout register).map (·.2) =
      (layout.toList.filter fun f => f.register.agrees register).filterMap (pragmaLine? s) := by
    rw [settingLines, List.map_filterMap]
    apply List.filterMap_congr
    intro f _
    rw [settingLine?, Option.map_map]
    exact Option.map_id'
  unfold pragmaBlock block?
  rw [← lines]
  cases found : settingLines s layout register with
  | nil => rfl
  | cons first rest => simp [Block.paragraph, Block.texts]

theorem flatMap_pragmaBlock (registers : List Scalar) :
    registers.flatMap (pragmaBlock s layout) =
      (registers.filterMap (block? s layout)).flatMap fun b => b.paragraph ++ [""] := by
  induction registers with
  | nil => rfl
  | cons register rest ih =>
    rw [List.flatMap_cons, ih, pragmaBlock_eq]
    cases found : block? s layout register with
    | none => rw [List.filterMap_cons_none found]; rfl
    | some b => rw [List.filterMap_cons_some found, List.flatMap_cons]; rfl

theorem settingLine?_eq_some_iff {f : Field} {index : Int} {line : String} :
    settingLine? s f = some (index, line) ↔ f.index = index ∧ pragmaLine? s f = some line := by
  simp [settingLine?, and_comm]

theorem mem_settingLines_iff {layout : Layout} (sound : layout.Sound) {register : String}
    {index : Int} {line : String} :
    (index, line) ∈ settingLines s layout (.text register) ↔
      ∃ f, layout.get? index = some f ∧ f.register = .text register ∧
        pragmaLine? s f = some line := by
  simp only [settingLines, List.mem_filterMap, List.mem_filter, Scalar.agrees_text_iff,
    settingLine?_eq_some_iff]
  constructor
  · rintro ⟨f, ⟨member, here⟩, rfl, shown⟩
    exact ⟨f, sound.get?_of_mem member, here, shown⟩
  · rintro ⟨f, mapped, here, shown⟩
    exact ⟨f, ⟨Layout.mem_of_get? mapped, here⟩, sound.index_of_get? mapped, shown⟩

theorem shows_iff {layout : Layout} (sound : layout.Sound) {index : Int} {line : String} :
    Shows s layout index line ↔
      ∃ f, layout.get? index = some f ∧ pragmaLine? s f = some line := by
  constructor
  · rintro ⟨f, label, value, mapped, chosen, text, rfl⟩
    rw [← sound.index_of_get? mapped] at chosen
    exact ⟨f, mapped, pragmaLine?_eq_some_iff.2
      ⟨label, value, chosen, pragmaValue?_eq_some_iff.2 text, rfl⟩⟩
  · rintro ⟨f, mapped, shown⟩
    obtain ⟨label, value, chosen, text, rfl⟩ := pragmaLine?_eq_some_iff.1 shown
    rw [sound.index_of_get? mapped] at chosen
    exact ⟨f, label, value, mapped, chosen, pragmaValue?_eq_some_iff.1 text, rfl⟩

theorem indices_sublist {layout : Layout} (sound : layout.Sound) (register : Scalar) :
    ((settingLines s layout register).map (·.1)).Sublist layout.fields.keys := by
  rw [settingLines, List.map_filterMap, ← sound.map_index]
  refine .trans (sublist_filterMap_map ?_) (List.filter_sublist.map Field.index)
  intro f _ index found
  obtain ⟨_, shown, rfl⟩ := Option.map_eq_some_iff.1 found
  exact ((settingLine?_eq_some_iff s).1 shown).1

section Named

variable {s layout} {image : Image} (named : ∀ name ∈ image.words.keys, ∃ text, name = .text text)

include named

theorem mem_blocksOf_iff {b : Block} :
    b ∈ blocksOf s layout image ↔ .text b.register ∈ image.words.keys ∧
      b.lines = settingLines s layout (.text b.register) ∧ b.lines ≠ [] := by
  simp only [blocksOf, List.mem_filterMap]
  constructor
  · rintro ⟨name, member, found⟩
    obtain ⟨register, rfl⟩ := named name member
    unfold block? at found
    split at found
    · cases found
    · rename_i filled
      cases found
      exact ⟨member, rfl, fun empty => filled (List.isEmpty_iff.2 empty)⟩
  · rintro ⟨member, lines, filled⟩
    refine ⟨_, member, ?_⟩
    rw [block?, ← lines, if_neg (by simpa using filled)]
    rfl

theorem registers_sublist :
    ((blocksOf s layout image).map fun b => Scalar.text b.register).Sublist image.words.keys := by
  rw [blocksOf, List.map_filterMap]
  nth_rewrite 2 [← List.map_id image.words.keys]
  apply sublist_filterMap_map
  intro name member other found
  obtain ⟨register, rfl⟩ := named name member
  obtain ⟨b, own, rfl⟩ := Option.map_eq_some_iff.1 found
  unfold block? at own
  split at own
  · cases own
  · cases own
    rfl

section Sound

variable (sound : layout.Sound)

include sound

theorem field_of_mem_lines {b : Block} (member : b ∈ blocksOf s layout image) {index : Int}
    {line : String} (own : (index, line) ∈ b.lines) :
    ∃ f, layout.get? index = some f ∧ f.register = .text b.register ∧
      pragmaLine? s f = some line := by
  obtain ⟨_, lines, _⟩ := (mem_blocksOf_iff named).1 member
  rw [lines] at own
  exact (mem_settingLines_iff s sound).1 own

theorem field_of_mem_indices {b : Block} (member : b ∈ blocksOf s layout image) {index : Int}
    (own : index ∈ b.indices) :
    ∃ f, layout.get? index = some f ∧ f.register = .text b.register := by
  obtain ⟨e, present, rfl⟩ := List.mem_map.1 own
  obtain ⟨f, mapped, here, _⟩ := field_of_mem_lines named sound member present
  exact ⟨f, mapped, here⟩

theorem indices_sublist_of_mem {b : Block} (member : b ∈ blocksOf s layout image) :
    b.indices.Sublist layout.fields.keys := by
  obtain ⟨_, lines, _⟩ := (mem_blocksOf_iff named).1 member
  rw [Block.indices, lines]
  exact indices_sublist s sound _

theorem nodup_indices : ((blocksOf s layout image).flatMap Block.indices).Nodup := by
  have apart : ((blocksOf s layout image).map fun b => Scalar.text b.register).Nodup :=
    (registers_sublist named).nodup image.words.nodup_keys
  rw [List.Nodup, List.pairwise_map] at apart
  refine List.nodup_flatMap.2 ⟨fun b member => ?_, apart.imp_of_mem ?_⟩
  · exact (indices_sublist_of_mem named sound member).nodup layout.fields.nodup_keys
  · -- A setting in both blocks would have its field in both registers.
    intro b c first second different index own other
    obtain ⟨f, mapped, here⟩ := field_of_mem_indices named sound first own
    obtain ⟨g, again, there⟩ := field_of_mem_indices named sound second other
    cases Option.some.inj (mapped.symm.trans again)
    exact different (here.symm.trans there)

section Declared

variable (declared : ∀ f ∈ layout.toList, f.register ∈ image.words.keys)

include declared

theorem exists_block {index : Int} {f : Field} {line : String}
    (mapped : layout.get? index = some f) (shown : pragmaLine? s f = some line) :
    ∃ b ∈ blocksOf s layout image, f.register = .text b.register ∧ (index, line) ∈ b.lines := by
  have present := declared f (Layout.mem_of_get? mapped)
  obtain ⟨register, here⟩ := named f.register present
  have own : (index, line) ∈ settingLines s layout (.text register) :=
    (mem_settingLines_iff s sound).2 ⟨f, mapped, here, shown⟩
  refine ⟨⟨register, settingLines s layout (.text register)⟩, ?_, here, own⟩
  exact (mem_blocksOf_iff named).2 ⟨here ▸ present, rfl, List.ne_nil_of_mem own⟩

theorem exists_mem_lines_iff {index : Int} {line : String} :
    (∃ b ∈ blocksOf s layout image, (index, line) ∈ b.lines) ↔ Shows s layout index line := by
  rw [shows_iff s sound]
  constructor
  · rintro ⟨b, member, own⟩
    obtain ⟨f, mapped, _, shown⟩ := field_of_mem_lines named sound member own
    exact ⟨f, mapped, shown⟩
  · rintro ⟨f, mapped, shown⟩
    obtain ⟨b, member, _, own⟩ := exists_block named sound declared mapped shown
    exact ⟨b, member, own⟩

theorem exists_register_iff {register : String} :
    (∃ b ∈ blocksOf s layout image, b.register = register) ↔
      ∃ index f line, layout.get? index = some f ∧ f.register = .text register ∧
        Shows s layout index line := by
  constructor
  · rintro ⟨b, member, rfl⟩
    obtain ⟨_, _, filled⟩ := (mem_blocksOf_iff named).1 member
    obtain ⟨⟨index, line⟩, own⟩ := List.exists_mem_of_ne_nil _ filled
    obtain ⟨f, mapped, here, shown⟩ := field_of_mem_lines named sound member own
    exact ⟨index, f, line, mapped, here, (shows_iff s sound).2 ⟨f, mapped, shown⟩⟩
  · rintro ⟨index, f, line, mapped, here, shows⟩
    obtain ⟨g, again, shown⟩ := (shows_iff s sound).1 shows
    cases Option.some.inj (mapped.symm.trans again)
    obtain ⟨b, member, there, _⟩ := exists_block named sound declared mapped shown
    exact ⟨b, member, Scalar.text.inj (there.symm.trans here)⟩

end Declared

end Sound

end Named

end Blocks

end Render
end ConfigWords
