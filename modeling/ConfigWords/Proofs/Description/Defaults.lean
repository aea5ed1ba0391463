import ConfigWords.Proofs.Description.Legality
import Mathlib.Data.Set.Finite.Basic

/-! Defaults for what a snapshot leaves out.
Filling in the defaults adds entries for the settings without one and keeps all others. Each default
is an option of its setting, so nothing new is reported; and a bad label keeps the default out,
because its setting has an entry. A default can only disturb another field through a bit that the
two share. -/
namespace ConfigWords

theorem Field.extract_erased (f : Field) : f.extract Word.erased = Word.span f.width - 1 := by
  have positive := Word.span_pos f.width
  refine extract_eq_of_testBit (by omega) fun b inside => ?_
  have reach := f.start_add_width_le
  rw [Word.testBit_erased (by omega), Word.span_eq, Nat.pow_eq, Nat.testBit_two_pow_sub_one,
    decide_eq_true inside]

theorem Compiler.resetOf_eq_erased {c : Compiler} (resets : c.ResetsToErased) (name : Scalar) :
    c.resetOf name = Word.erased := by
  unfold resetOf
  cases found : c.registers.get? name with
  | none => rfl
  | some register =>
    obtain ⟨key, member, _⟩ := OrderedMap.exists_mem_of_get? found
    exact resets (key, register) member

/-- A snapshot can choose a label for one field and unknown labels for all others. -/
theorem Layout.Sound.exists_alone {layout : Layout} (sound : layout.Sound) {f : Field}
    (member : f ∈ layout.toList) (label : String) :
    ∃ s : Snapshot, s.get? f.index = some label ∧ ∀ g ∈ layout.toList, f ≠ g →
      ∃ foreign, s.get? g.index = some foreign ∧ g.encode? foreign = none := by
  obtain ⟨foreign, unused⟩ :=
    (List.finite_toSet (layout.toList.flatMap (·.values.keys))).exists_notMem
  let s : Snapshot :=
    layout.fields.mapValues fun _ g => if g.index = f.index then label else foreign
  have chosen {g : Field} (present : g ∈ layout.toList) :
      s.get? g.index = some (if g.index = f.index then label else foreign) := by
    rw [OrderedMap.get?_mapValues _ fun _ _ _ => rfl]
    exact congrArg (Option.map _) (sound.get?_of_mem present)
  refine ⟨s, by rw [chosen member, if_pos rfl], fun g present different => ⟨foreign, ?_, ?_⟩⟩
  · have apart : g.index ≠ f.index := fun same =>
      different (List.inj_on_of_nodup_map sound.nodup_index member present same.symm)
    rw [chosen present, if_neg apart]
  · exact Field.encode?_eq_none_iff.2 fun listed => unused (List.mem_flatMap.2 ⟨g, present, listed⟩)

/-- Where shared bits are one in all values, each field reads as if it were alone. -/
theorem Compiler.fieldValue_of_sharesOnes {c : Compiler} (sound : c.layout.Sound)
    (shares : c.layout.SharesOnes) (resets : c.ResetsToErased) (declared : c.Declared) {f : Field}
    (member : f ∈ c.layout.toList) {s : Snapshot} {result : Compiled}
    (compiled : c.compile s = .ok result) : result.image.fieldValue f = .ok (c.bitsOf s f) := by
  rw [fieldValue_eq_settle declared member compiled, bitsOf]
  refine congrArg _ (extract_settle_of_agree sound member _ ?_)
  intro g other different b inside there
  have here : f.Holds f.register (f.start + b) := Field.holds_of_lt BEq.rfl inside
  intro value listed
  rw [shares g other f member different.symm _ _ there here value listed]
  cases taken : c.accepted? s f with
  | none =>
    have reach := f.start_add_width_le
    rw [Option.getD_none, resetOf_eq_erased resets, Field.testBit_extract, decide_eq_true inside,
      Bool.true_and, Word.testBit_erased (by omega)]
  | some own =>
    have one := shares f member g other different _ _ here there own (mem_values_of_accepted? taken)
    rwa [Nat.add_sub_cancel_left, eq_comm] at one

namespace Schema

theorem get?_defaults (schema : Schema) (index : Int) :
    schema.defaults.get? index = (schema.get? index).map (·.default) :=
  OrderedMap.get?_mapValues _ fun _ _ _ => rfl

theorem get?_resolve (schema : Schema) (s : Snapshot) (index : Int) :
    (schema.resolve s).get? index =
      (s.get? index).or ((schema.get? index).map (·.default)) := by
  rw [resolve, OrderedMap.get?_overlay, get?_defaults]

theorem get?_resolve_of_some (schema : Schema) {s : Snapshot} {index : Int} {label : String}
    (chosen : s.get? index = some label) : (schema.resolve s).get? index = some label := by
  rw [get?_resolve, chosen, Option.some_or]

theorem accepts_default {schema : Schema} {e : Int × String}
    (member : e ∈ schema.defaults.entries) : schema.accepts e = true := by
  obtain ⟨entry, present, rfl⟩ := List.mem_map.1 member
  have known : schema.get? entry.1 = some entry.2 := OrderedMap.get?_of_mem present
  simp [accepts, known, entry.2.default_mem]

end Schema

namespace Description

section Loaded

variable {d : Description} (sound : d.Sound)

include sound

theorem Sound.diagnostics_eq_nil {s : Snapshot}
    (accepted : ∀ e ∈ s.entries, d.schema.accepts e = true) :
    (Device.compilerOf d).diagnostics s = [] := by
  rw [List.eq_nil_iff_forall_not_mem]
  intro problem reported
  obtain ⟨e, member, judged⟩ := Compiler.mem_diagnostics_iff.1 reported
  have refused := (sound.ruling e).accepts_eq_false_iff.2 ⟨problem, judged⟩
  rw [accepted e member] at refused
  cases refused

theorem Sound.diagnostics_resolve (s : Snapshot) :
    ((Device.compilerOf d).diagnostics (d.schema.resolve s)).Perm
      ((Device.compilerOf d).diagnostics s) := by
  let added := d.schema.defaults.filter fun e => !s.contains e.1
  have parts : ((Device.compilerOf d).diagnostics (d.schema.resolve s)).Perm
      ((Device.compilerOf d).diagnostics s ++ (Device.compilerOf d).diagnostics added) := by
    unfold Compiler.diagnostics
    rw [← List.filterMap_append]
    exact (OrderedMap.perm_overlay d.schema.defaults s).filterMap _
  have silent : (Device.compilerOf d).diagnostics added = [] :=
    sound.diagnostics_eq_nil fun e member => Schema.accepts_default (List.mem_filter.1 member).1
  rwa [silent, List.append_nil] at parts

theorem Sound.exists_default {f : Field} (member : f ∈ d.layout.toList) :
    ∃ setting value, d.schema.get? f.index = some setting ∧
      f.encode? setting.default = some value := by
  obtain ⟨setting, known, _, options⟩ := sound.setting_of_field (sound.get?_of_mem member)
  have listed : setting.default ∈ f.values.keys := options ▸ setting.default_mem
  rw [← OrderedMap.contains_eq_true_iff, OrderedMap.contains_iff_exists] at listed
  obtain ⟨value, encoded⟩ := listed
  exact ⟨setting, value, known, encoded⟩

theorem Sound.bitsOf_eq {s : Snapshot} {f : Field} (member : f ∈ d.layout.toList) :
    (Device.compilerOf d).bitsOf s f =
      ((s.get? f.index).bind f.encode?).getD
        (f.extract ((Device.compilerOf d).resetOf f.register)) := by
  have counted : f.index ∉ (Device.compilerOf d).informational :=
    sound.not_informational (sound.get?_of_mem member)
  rw [Compiler.bitsOf, Compiler.accepted?, if_neg counted]

end Loaded

/-- Both images have a word for the register, and outside the fields the two words agree. -/
def SameOutside (d : Description) (image other : Image) : Prop :=
  ∀ name ∈ d.registers.keys, ∃ word next, image.words.get? name = some word ∧
    other.words.get? name = some next ∧
    ∀ b < 32, (¬ ∃ f ∈ d.layout.toList, f.Holds name b) → next.testBit b = word.testBit b

theorem Sound.sameOutside {d : Description} (sound : d.Sound) {s t : Snapshot}
    {result other : Compiled} (compiled : (Device.compilerOf d).compile s = .ok result)
    (second : (Device.compilerOf d).compile t = .ok other) :
    d.SameOutside result.image other.image := by
  have declared : (Device.compilerOf d).Declared := sound.declared
  intro name present
  obtain ⟨e, member, rfl⟩ := List.mem_map.1 present
  have found : (Device.compilerOf d).registers.get? e.1 = some e.2 := OrderedMap.get?_of_mem member
  refine ⟨_, _, Compiler.word_compile declared compiled found,
    Compiler.word_compile declared second found, fun b low free => ?_⟩
  rw [Word.testBit_cut _ low, Word.testBit_cut _ low, Compiler.testBit_settle_of_unheld free,
    Compiler.testBit_settle_of_unheld free]

/-- The field of an entry has the same bits before and after the defaults are filled in, and all
ones if its label is unknown; a field without an entry has its default. -/
structure Fills (d : Description) (s : Snapshot) (image next : Image) (f : Field) : Prop where
  chosen : s.contains f.index = true →
    ∃ bits, image.fieldValue f = .ok bits ∧ next.fieldValue f = .ok bits
  unknown : ∀ label, s.get? f.index = some label → f.encode? label = none →
    next.fieldValue f = .ok (Word.span f.width - 1)
  missing : s.contains f.index = false → ∃ setting value, d.schema.get? f.index = some setting ∧
    f.encode? setting.default = some value ∧ next.fieldValue f = .ok value

/-- The defaults are filled in right, whatever the snapshot. -/
def FillsAll (d : Description) : Prop :=
  ∀ s result filled, (Device.compilerOf d).compile s = .ok result →
    (Device.compilerOf d).compile (d.schema.resolve s) = .ok filled →
    ∀ f ∈ d.layout.toList, d.Fills s result.image filled.image f

section Filled

variable {d : Description} {s : Snapshot} {result filled : Compiled} {f : Field}
  (sound : d.Sound) (resets : (Device.compilerOf d).ResetsToErased)

include sound resets in
/-- It is enough that the field reads as if it were alone, before and after. -/
theorem Sound.fills (member : f ∈ d.layout.toList)
    (before : result.image.fieldValue f = .ok ((Device.compilerOf d).bitsOf s f))
    (after : filled.image.fieldValue f =
      .ok ((Device.compilerOf d).bitsOf (d.schema.resolve s) f)) :
    d.Fills s result.image filled.image f := by
  refine ⟨fun present => ?_, fun label chosen unknown => ?_, fun absent => ?_⟩
  · obtain ⟨label, chosen⟩ := OrderedMap.contains_iff_exists.1 present
    have kept : (d.schema.resolve s).get? f.index = s.get? f.index :=
      (d.schema.get?_resolve_of_some chosen).trans chosen.symm
    exact ⟨_, before, by rw [after, Compiler.bitsOf_congr kept]⟩
  · rw [after, sound.bitsOf_eq member, d.schema.get?_resolve_of_some chosen, Option.bind_some,
      unknown, Option.getD_none, Compiler.resetOf_eq_erased resets, Field.extract_erased]
  · obtain ⟨setting, bits, known, encoded⟩ := sound.exists_default member
    have missing : s.get? f.index = none := by
      rwa [OrderedMap.contains_eq_isSome, Option.isSome_eq_false_iff, Option.isNone_iff_eq_none]
        at absent
    have default : (d.schema.resolve s).get? f.index = some setting.default := by
      rw [Schema.get?_resolve, missing, known, Option.none_or, Option.map_some]
    refine ⟨setting, bits, known, encoded, ?_⟩
    rw [after, sound.bitsOf_eq member, default, Option.bind_some, encoded, Option.getD_some]

include sound in
/-- In a snapshot where no label but one of f is known, g is left erased, and so the value of f has
ones in the bits that the two share. -/
theorem Sound.sharesOnes_of_fillsAll (fields : d.layout.Sound) (fills : d.FillsAll) :
    d.layout.SharesOnes := by
  have declared : (Device.compilerOf d).Declared := sound.declared
  intro f member g other different register b holds there value listed
  obtain ⟨e, entry, rfl⟩ := List.mem_map.1 listed
  obtain ⟨s, chosen, foreign⟩ := fields.exists_alone member e.1
  have before := Compiler.compile_eq declared s
  have after := Compiler.compile_eq declared (d.schema.resolve s)
  obtain ⟨label, unknown, strange⟩ := foreign g other different
  have erased := (fills s _ _ before after g other).unknown label unknown strange
  rw [Compiler.fieldValue_eq_settle declared other after, Except.ok.injEq] at erased
  have settled : ((Device.compilerOf d).settle g.register (d.schema.resolve s).entries
      ((Device.compilerOf d).resetOf g.register)).testBit b = e.2.testBit (b - f.start) := by
    have mapped := fields.get?_of_mem member
    have judged : (Device.compilerOf d).judge f.index e.1 = .write f e.2 :=
      Compiler.judge_eq_write_iff.2
        ⟨sound.not_informational mapped, mapped, OrderedMap.get?_eq_some_iff.2 entry⟩
    have listed := OrderedMap.get?_eq_some_iff.1 (d.schema.get?_resolve_of_some chosen)
    have here : f.Holds g.register b := ⟨BEq.trans holds.1 (BEq.symm there.1), holds.2⟩
    refine Compiler.testBit_settle_of_sole fields listed judged here ?_ _
    intro i present h value written _
    obtain ⟨_, mapped, encoded⟩ := Compiler.judge_eq_write_iff.1 written
    by_contra different
    obtain ⟨label, unknown, strange⟩ := foreign h (Layout.mem_of_get? mapped) different
    have same := d.schema.get?_resolve_of_some unknown
    rw [fields.index_of_get? mapped, OrderedMap.get?_of_mem present, Option.some.injEq] at same
    cases (same ▸ encoded).symm.trans strange
  rw [← settled, ← Field.testBit_extract_of_holds there, erased, Word.span_eq, Nat.pow_eq,
    Nat.testBit_two_pow_sub_one, decide_eq_true there.sub_lt]

end Filled

variable {tree : Tree} {d : Description}

/-- Filling in the defaults reports nothing new, leaves the field of every index in the snapshot as
it is, an unknown label's field erased, and gives all other fields their defaults. The fields are
filled so for every snapshot exactly if the bits that they share are one in all their values, and
so without a register NaN. -/
theorem resolve_fills (read : ofTree tree = .ok d) :
    (∀ s, ∃ result filled usual, (Device.compilerOf d).compile s = .ok result ∧
      (Device.compilerOf d).compile (d.schema.resolve s) = .ok filled ∧
      (Device.compilerOf d).compile d.schema.defaults = .ok usual ∧
      filled.diagnostics.Perm result.diagnostics ∧
      (∀ f ∈ d.layout.toList, d.layout.Unshared f → d.Fills s result.image filled.image f) ∧
      d.SameOutside result.image filled.image ∧
      usual.diagnostics = []) ∧
    (d.FillsAll ↔ d.layout.SharesOnes) ∧
    ∀ f ∈ d.layout.toList, f.register.isNaN = false → d.layout.Unshared f := by
  have sound := sound_of_ofTree read
  have resets := resets_of_ofTree read
  have fields := (ofTree_eq_ok read).1.reachable.sound
  have declared : (Device.compilerOf d).Declared := sound.declared
  refine ⟨fun s => ?_, ⟨?_, ?_⟩, fun f member => fields.unshared member⟩
  · obtain ⟨result, compiled⟩ := Compiler.exists_compile declared s
    obtain ⟨filled, second⟩ := Compiler.exists_compile declared (d.schema.resolve s)
    obtain ⟨usual, third⟩ := Compiler.exists_compile declared d.schema.defaults
    refine ⟨result, filled, usual, compiled, second, third, ?_, fun f member unshared => ?_,
      sound.sameOutside compiled second, ?_⟩
    · rw [Compiler.diagnostics_of_compile compiled, Compiler.diagnostics_of_compile second]
      exact sound.diagnostics_resolve s
    · exact sound.fills resets member
        (Compiler.fieldValue_compile declared member compiled fields unshared)
        (Compiler.fieldValue_compile declared member second fields unshared)
    · rw [Compiler.diagnostics_of_compile third]
      exact sound.diagnostics_eq_nil fun e member => Schema.accepts_default member
  · exact sound.sharesOnes_of_fillsAll fields
  · intro shares s result filled compiled second f member
    exact sound.fills resets member
      (Compiler.fieldValue_of_sharesOnes fields shares resets declared member compiled)
      (Compiler.fieldValue_of_sharesOnes fields shares resets declared member second)

/-- The multiplier's label is no option, so its default is not filled in. -/
theorem resolve_fills_clock :
    ∃ d filled f, ofTree clockTree = .ok d ∧ d.layout.toList = [f] ∧
      (Device.compilerOf d).compile (d.schema.resolve mixedChoices) = .ok filled ∧
      filled.image.fieldValue f = .ok 3 := by
  obtain ⟨d, read, f, fields, width, chosen, named⟩ : ∃ d, ofTree clockTree = .ok d ∧
      ∃ f, d.layout.toList = [f] ∧ f.width = 2 ∧ (mixedChoices.get? f.index =
        some "PLL Multiply by 200" ∧ f.encode? "PLL Multiply by 200" = none) ∧
        f.register.isNaN = false :=
    ⟨_, rfl, _, rfl, rfl, ⟨rfl, rfl⟩, rfl⟩
  obtain ⟨filling, _, unshared⟩ := resolve_fills read
  obtain ⟨_, filled, _, _, compiled, _, _, each, _⟩ := filling mixedChoices
  refine ⟨d, filled, f, read, fields, compiled, ?_⟩
  have member : f ∈ d.layout.toList := fields ▸ .head _
  have bits := (each f member (unshared f member named)).unknown _ chosen.1 chosen.2
  rwa [width] at bits

/-- The default of the second field overwrites a bit that the snapshot chose for the first. Where
both are chosen, the order of the settings takes the place of the snapshot's. -/
theorem default_takes_shared_bit :
    ∃ d f, ofTree sharedTree = .ok d ∧ d.layout.get? 1 = some f ∧
      (∃ s result filled, s = OrderedMap.ofList [(1, "3")] ∧
        (Device.compilerOf d).compile s = .ok result ∧
        (Device.compilerOf d).compile (d.schema.resolve s) = .ok filled ∧
        result.image.words.get? (.float .nan) = some 0xFFFFFFFF ∧
        filled.image.words.get? (.float .nan) = some 0xFFFFFFF9 ∧
        result.image.fieldValue f = .ok 3 ∧ filled.image.fieldValue f = .ok 1) ∧
      ∃ s result filled, s = OrderedMap.ofList [(2, "3"), (1, "0")] ∧
        (Device.compilerOf d).compile s = .ok result ∧
        (Device.compilerOf d).compile (d.schema.resolve s) = .ok filled ∧
        result.image.words.get? (.float .nan) = some 0xFFFFFFFC ∧
        filled.image.words.get? (.float .nan) = some 0xFFFFFFFE ∧
        result.image.fieldValue f = .ok 0 ∧ filled.image.fieldValue f = .ok 2 :=
  ⟨_, _, rfl, rfl, ⟨_, _, _, rfl, rfl, rfl, rfl, rfl, rfl, rfl⟩,
    ⟨_, _, _, rfl, rfl, rfl, rfl, rfl, rfl, rfl⟩⟩

end Description
end ConfigWords
