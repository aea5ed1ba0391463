import ConfigWords.Device
import ConfigWords.Proofs.Description.Reading
import ConfigWords.Proofs.Diagnostics
import ConfigWords.Render.Pragmas

/-! Pragma lines beside the compiled words.
A line is rendered from the pragma text of a label, a word is compiled from the label's value. The
two ask different tables, and they disagree on one kind of label only: one that spells out a
multiplier which its field does not know. The register NaN has words but no lines, since no field
agrees with its name. -/
namespace ConfigWords.Render

def pragmaHead : String := "#pragma config "

/-- The line of a field stands in the block of a register of the image. -/
def Emits (s : Snapshot) (image : Image) (layout : Layout) (f : Field) (line : String) : Prop :=
  f ∈ layout.toList ∧ (∃ register ∈ image.words.keys, f.register.agrees register = true) ∧
    pragmaLine? s f = some line

theorem pragmaLine?_eq_some_iff {s : Snapshot} {f : Field} {line : String} :
    pragmaLine? s f = some line ↔ ∃ label value, s.get? f.index = some label ∧
      pragmaValue? f label = some value ∧ pragmaHead ++ f.name ++ " = " ++ value = line := by
  simp [pragmaLine?, pragmaHead, Option.bind_eq_some_iff]

theorem pragmaHead_prefix_of_line {s : Snapshot} {f : Field} {line : String}
    (found : pragmaLine? s f = some line) : pragmaHead.toList <+: line.toList := by
  obtain ⟨_, value, _, _, rfl⟩ := pragmaLine?_eq_some_iff.1 found
  exact ⟨(f.name ++ " = " ++ value).toList, by simp⟩

theorem mem_pragmaBlock_iff {s : Snapshot} {layout : Layout} {register : Scalar} {line : String}
    (head : pragmaHead.toList <+: line.toList) :
    line ∈ pragmaBlock s layout register ↔
      ∃ f ∈ layout.toList, f.register.agrees register = true ∧ pragmaLine? s f = some line := by
  have heading : line ≠ "// " ++ register.plain := by
    rintro rfl
    simp [pragmaHead] at head
  have gap : line ≠ "" := by
    rintro rfl
    simp [pragmaHead] at head
  have lines : line ∈ (layout.toList.filter fun f => f.register.agrees register).filterMap
      (pragmaLine? s) ↔
        ∃ f ∈ layout.toList, f.register.agrees register = true ∧ pragmaLine? s f = some line := by
    simp [and_assoc]
  rw [← lines, pragmaBlock]
  split
  · rename_i empty
    rw [List.isEmpty_iff.1 empty]
  · simp [heading, gap]

theorem mem_pragmaLines_iff {s : Snapshot} {image : Image} {layout : Layout} {device : Scalar}
    {line : String} :
    (line ∈ pragmaLines s image layout device ∧ pragmaHead.toList <+: line.toList) ↔
      ∃ f, Emits s image layout f line := by
  constructor
  · rintro ⟨member, head⟩
    simp only [pragmaLines, List.mem_append, List.mem_singleton, List.mem_flatMap,
      List.mem_map] at member
    rcases member with ((((title | named) | gap) | ⟨register, present, block⟩) | closing) |
      ⟨e, _, reference⟩
    · cases title
      simp [pragmaHead] at head
    · split at named
      · cases List.mem_singleton.1 named
        exact absurd head (by simp [pragmaHead])
      · cases named
    · cases gap
      simp [pragmaHead] at head
    · obtain ⟨f, member, here, found⟩ := (mem_pragmaBlock_iff head).1 block
      exact ⟨f, member, ⟨register, present, here⟩, found⟩
    · cases closing
      simp [pragmaHead] at head
    · cases reference
      simp [referenceLine, pragmaHead] at head
  · rintro ⟨f, member, ⟨register, present, here⟩, found⟩
    have head := pragmaHead_prefix_of_line found
    refine ⟨?_, head⟩
    have block : line ∈ pragmaBlock s layout register :=
      (mem_pragmaBlock_iff head).2 ⟨f, member, here, found⟩
    have blocks : line ∈ image.words.keys.flatMap (pragmaBlock s layout) :=
      List.mem_flatMap.2 ⟨register, present, block⟩
    simp only [pragmaLines, List.mem_append]
    exact .inl (.inl (.inr blocks))

theorem multiplierDigits?_eq_some_iff {label : String} {digits : List Char} :
    multiplierDigits? label = some digits ↔
      digits ≠ [] ∧ (∀ c ∈ digits, Text.isDigit c = true) ∧
        label.toList = multiplierLabel.toList ++ digits := by
  unfold multiplierDigits?
  constructor
  · intro found
    dsimp only at found
    split at found
    · rename_i spelled
      cases Option.some.inj found
      obtain ⟨head, some_digit, decimal⟩ := spelled
      have rejoined := List.take_append_drop multiplierLabel.toList.length label.toList
      rw [head] at rejoined
      exact ⟨some_digit, List.all_eq_true.1 decimal, rejoined.symm⟩
    · cases found
  · rintro ⟨some_digit, decimal, same⟩
    have head : label.toList.take multiplierLabel.toList.length = multiplierLabel.toList := by
      rw [same, List.take_left]
    have tail : label.toList.drop multiplierLabel.toList.length = digits := by
      rw [same, List.drop_left]
    simp only [head, tail]
    exact if_pos ⟨trivial, some_digit, List.all_eq_true.2 decimal⟩

def SpellsMultiplier (label : String) : Prop :=
  ∃ digits, digits ≠ [] ∧ (∀ c ∈ digits, Text.isDigit c = true) ∧
    label.toList = multiplierLabel.toList ++ digits

theorem multiplierDigits?_isSome_iff {label : String} :
    (multiplierDigits? label).isSome = true ↔ SpellsMultiplier label := by
  simp only [Option.isSome_iff_exists, multiplierDigits?_eq_some_iff, SpellsMultiplier]

theorem pragmaValue?_isSome_iff {f : Field} {label : String} :
    (pragmaValue? f label).isSome = true ↔
      f.pragmas.contains label = true ∨ f.name = multiplierField ∧ SpellsMultiplier label := by
  rw [← multiplierDigits?_isSome_iff, OrderedMap.contains_eq_isSome, pragmaValue?, Field.pragma?]
  cases f.pragmas.get? label with
  | some value => simp
  | none => by_cases named : f.name = multiplierField <;> simp [named]

section Loaded

variable {d : Description} {s : Snapshot} {result : Compiled}

theorem exists_block_iff (sound : d.Sound)
    (compiled : (Device.compilerOf d).compile s = .ok result) {f : Field}
    (member : f ∈ d.layout.toList) :
    (∃ register ∈ result.image.words.keys, f.register.agrees register = true) ↔
      f.register.isNaN = false := by
  have declared : (Device.compilerOf d).Declared := sound.declared
  have keys : result.image.words.keys = d.registers.keys :=
    Compiler.keys_of_compile declared compiled
  rw [keys]
  constructor
  · rintro ⟨register, _, here⟩
    exact (Scalar.agrees_iff.1 here).2
  · intro named
    obtain ⟨e, present, same⟩ := List.any_eq_true.1 (sound.declared f member)
    exact ⟨e.1, List.mem_map_of_mem present, Scalar.agrees_iff.2 ⟨BEq.symm same, named⟩⟩

theorem exists_emits_iff (sound : d.Sound)
    (compiled : (Device.compilerOf d).compile s = .ok result) {f : Field} {label : String}
    (member : f ∈ d.layout.toList) (chosen : s.get? f.index = some label) :
    (∃ line, Emits s result.image d.layout f line) ↔
      f.register.isNaN = false ∧ (pragmaValue? f label).isSome = true := by
  rw [← exists_block_iff sound compiled member]
  constructor
  · rintro ⟨line, _, block, found⟩
    obtain ⟨other, value, same, text, _⟩ := pragmaLine?_eq_some_iff.1 found
    rw [chosen] at same
    rw [Option.some.inj same, text]
    exact ⟨block, rfl⟩
  · rintro ⟨block, found⟩
    obtain ⟨value, text⟩ := Option.isSome_iff_exists.1 found
    exact ⟨_, member, block, pragmaLine?_eq_some_iff.2 ⟨label, value, chosen, text, rfl⟩⟩

theorem applied_iff_known (sound : d.Sound)
    (compiled : (Device.compilerOf d).compile s = .ok result) {index : Int} {f : Field}
    {label : String} (mapped : d.layout.get? index = some f) (chosen : s.get? index = some label) :
    (Device.compilerOf d).Applied s result index ↔ f.values.contains label = true := by
  rw [Compiler.applied_iff compiled, OrderedMap.contains_eq_isSome, Option.isSome_iff_exists]
  constructor
  · rintro ⟨other, g, value, same, judged⟩
    obtain ⟨_, found, known⟩ := Compiler.judge_eq_write_iff.1 judged
    cases Option.some.inj (chosen.symm.trans same)
    cases Option.some.inj (mapped.symm.trans found)
    exact ⟨value, known⟩
  · rintro ⟨value, known⟩
    have counted := sound.not_informational mapped
    exact ⟨label, f, value, chosen, Compiler.judge_eq_write_iff.2 ⟨counted, mapped, known⟩⟩

end Loaded

/-- A line for a setting goes with an applied entry, unless the entry spells out a multiplier that
the multiplier's field does not know. There the line is rendered all the same, if the field stands in
a register that has lines. -/
theorem emits_applied_iff {tree : Tree} {d : Description}
    (read : Description.ofTree tree = .ok d) (s : Snapshot) :
    ∃ result, (Device.compilerOf d).compile s = .ok result ∧
      (∀ device line,
        (line ∈ pragmaLines s result.image d.layout device ∧ pragmaHead.toList <+: line.toList) ↔
          ∃ f, Emits s result.image d.layout f line) ∧
      ∀ index,
        (∀ f line, f.index = index → Emits s result.image d.layout f line →
          (Device.compilerOf d).Applied s result index) ↔
        ¬ ∃ f label, d.layout.get? index = some f ∧ s.get? index = some label ∧
          f.name = multiplierField ∧ SpellsMultiplier label ∧
          f.values.contains label = false ∧ f.register.isNaN = false := by
  obtain ⟨together, pins⟩ := Description.ofTree_eq_ok read
  have sound := Description.sound_of_matched together pins
  have fields := together.reachable.sound
  have declared : (Device.compilerOf d).Declared := sound.declared
  have compiled := Compiler.compile_eq declared s
  refine ⟨_, compiled, fun _ _ => mem_pragmaLines_iff, ?_⟩
  intro index
  constructor
  · -- The text is there without the table, so the line is emitted and nothing is applied.
    rintro agrees ⟨f, label, mapped, chosen, name, spelled, unknown, named⟩
    have member := Layout.mem_of_get? mapped
    have same := fields.index_of_get? mapped
    have text := pragmaValue?_isSome_iff.2 (.inr ⟨name, spelled⟩)
    obtain ⟨line, emitted⟩ :=
      (exists_emits_iff sound compiled member (same ▸ chosen)).2 ⟨named, text⟩
    have applied := agrees f line same emitted
    rw [applied_iff_known sound compiled mapped chosen, unknown] at applied
    cases applied
  · intro ordinary f line same emitted
    have member := emitted.1
    have mapped := fields.get?_of_mem member
    rw [same] at mapped
    obtain ⟨label, _, chosen, _⟩ := pragmaLine?_eq_some_iff.1 emitted.2.2
    obtain ⟨named, text⟩ := (exists_emits_iff sound compiled member chosen).1 ⟨line, emitted⟩
    rw [same] at chosen
    rw [applied_iff_known sound compiled mapped chosen]
    -- A listed text belongs to a known label; a text that is spelled out is the other case.
    rcases pragmaValue?_isSome_iff.1 text with listed | ⟨name, spelled⟩
    · have known := sound.pragma_known f member label (OrderedMap.contains_eq_true_iff.1 listed)
      exact OrderedMap.contains_eq_true_iff.2 known
    · by_contra unknown
      exact ordinary
        ⟨f, label, mapped, chosen, name, spelled, eq_false_of_ne_true unknown, named⟩

def multiplierChoice (label : String) : Snapshot := OrderedMap.ofList [(9, label)]

theorem emits_applied_clock :
    ∃ d result, Description.ofTree Description.clockTree = .ok d ∧
      (Device.compilerOf d).compile (multiplierChoice "PLL Multiply by 2") = .ok result ∧
      ∀ f line, f.index = 9 →
        Emits (multiplierChoice "PLL Multiply by 2") result.image d.layout f line →
        (Device.compilerOf d).Applied (multiplierChoice "PLL Multiply by 2") result 9 := by
  obtain ⟨d, read, known⟩ : ∃ d, Description.ofTree Description.clockTree = .ok d ∧
      ∀ f, d.layout.get? 9 = some f → f.values.contains "PLL Multiply by 2" = true := by
    refine ⟨_, rfl, ?_⟩
    intro f mapped
    cases mapped
    rfl
  obtain ⟨result, compiled, _, agrees⟩ :=
    emits_applied_iff read (multiplierChoice "PLL Multiply by 2")
  refine ⟨d, result, read, compiled, (agrees 9).2 ?_⟩
  rintro ⟨f, label, mapped, chosen, _, _, unknown, _⟩
  cases chosen
  rw [known f mapped] at unknown
  cases unknown

/-- A multiplier that its field does not know is reported and its bits stay erased, and yet its line
is rendered. -/
theorem unknown_multiplier_rendered :
    ∃ d f result, Description.ofTree Description.clockTree = .ok d ∧ d.layout.get? 9 = some f ∧
      (Device.compilerOf d).compile (multiplierChoice "PLL Multiply by 200") = .ok result ∧
      result.diagnostics = [.unknownOption 9 "PLL Multiply by 200" "FPLLMULT"] ∧
      result.image.words.get? (.text "CFG") = some 0xFFFFFFFF ∧
      Emits (multiplierChoice "PLL Multiply by 200") result.image d.layout f
        "#pragma config FPLLMULT = MUL_200" ∧
      ¬ (Device.compilerOf d).Applied (multiplierChoice "PLL Multiply by 200") result 9 := by
  refine ⟨_, _, _, rfl, rfl, rfl, rfl, rfl, ⟨.head _, ⟨_, .head _, rfl⟩, rfl⟩, ?_⟩
  rintro ⟨_, _, silent⟩
  exact silent _ (.head _) rfl

end ConfigWords.Render
