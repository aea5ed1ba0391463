import ConfigWords.Proofs.Compiler
import ConfigWords.Proofs.Outcome

/-! Decoding undoes compiling.
A field is read from the cut word as it stood in the settled one, so it reads back the value of its
own entry or, without an entry that counts, the reset value's bits. Decoding then names those bits
by the first label that has them. -/
namespace ConfigWords

namespace Field

/-- The label has the given bits and no earlier label has them. -/
def FirstLabel (f : Field) (value : Nat) (label : String) : Prop :=
  ∃ before after, f.values.entries = before ++ (label, value) :: after ∧
    ∀ e ∈ before, e.2 ≠ value

def choice? (f : Field) (value : Nat) : Option (Int × String) :=
  (f.labelOf? value).map fun label => (f.index, label)

theorem labelOf?_eq_some_iff {f : Field} {value : Nat} {label : String} :
    f.labelOf? value = some label ↔ f.FirstLabel value label := by
  simp only [labelOf?, Option.map_eq_some_iff, List.find?_eq_some_iff_append]
  constructor
  · rintro ⟨⟨_, v⟩, ⟨hit, before, after, split, earlier⟩, rfl⟩
    have same : v = value := by simpa using hit
    subst same
    exact ⟨before, after, split, fun e member => by simpa using earlier e member⟩
  · rintro ⟨before, after, split, earlier⟩
    exact ⟨(label, value), ⟨by simp, before, after, split,
      fun e member => by simpa using earlier e member⟩, rfl⟩

theorem labelOf?_isSome_iff {f : Field} {value : Nat} :
    (f.labelOf? value).isSome = true ↔ value ∈ f.values.values := by
  simp [labelOf?, OrderedMap.values]

theorem labelOf?_of_nodup {f : Field} {label : String} {value : Nat}
    (apart : f.values.values.Nodup) (known : f.encode? label = some value) :
    f.labelOf? value = some label := by
  obtain ⟨before, after, split⟩ :=
    List.append_of_mem (OrderedMap.get?_eq_some_iff.1 known)
  refine labelOf?_eq_some_iff.2 ⟨before, after, split, ?_⟩
  intro e member same
  rw [OrderedMap.values, split, List.map_append, List.nodup_append] at apart
  exact apart.2.2 e.2 (List.mem_map.2 ⟨e, member, rfl⟩) value (by simp) same

end Field

namespace Compiler

def accepted? (c : Compiler) (s : Snapshot) (f : Field) : Option Nat :=
  if f.index ∈ c.informational then none else (s.get? f.index).bind f.encode?

def resetOf (c : Compiler) (name : Scalar) : Int :=
  ((c.registers.get? name).map (·.reset)).getD Word.erased

/-- The bits that a field ends with: the value that the snapshot gives it, or else the bits that
its register is reset to. -/
def bitsOf (c : Compiler) (s : Snapshot) (f : Field) : Nat :=
  (c.accepted? s f).getD (f.extract (c.resetOf f.register))

variable {c : Compiler} {s : Snapshot} {f : Field}

theorem bitsOf_congr {t : Snapshot} (same : s.get? f.index = t.get? f.index) :
    c.bitsOf s f = c.bitsOf t f := by
  simp only [bitsOf, accepted?, same]

theorem accepted?_eq_some_iff (sound : c.layout.Sound) (member : f ∈ c.layout.toList)
    {value : Nat} :
    c.accepted? s f = some value ↔
      ∃ label, (f.index, label) ∈ s.entries ∧ c.judge f.index label = .write f value := by
  have mapped := sound.get?_of_mem member
  unfold accepted?
  by_cases passed : f.index ∈ c.informational
  · simp [passed, judge_eq_write_iff]
  · simp [passed, judge_eq_write_iff, mapped, Option.bind_eq_some_iff,
      OrderedMap.get?_eq_some_iff]

theorem mem_values_of_encode? {label : String} {value : Nat}
    (known : f.encode? label = some value) : value ∈ f.values.values :=
  List.mem_map_of_mem (OrderedMap.get?_eq_some_iff.1 known)

/-- A field keeps its own bits if what other fields may write there is the same. -/
theorem extract_settle_of_agree (sound : c.layout.Sound) (member : f ∈ c.layout.toList) (word : Int)
    (agree : ∀ g ∈ c.layout.toList, f ≠ g → ∀ b < f.width, g.Holds f.register (f.start + b) →
      ∀ value ∈ g.values.values, value.testBit (f.start + b - g.start) =
        ((c.accepted? s f).getD (f.extract word)).testBit b) :
    f.extract (c.settle f.register s.entries word) = (c.accepted? s f).getD (f.extract word) := by
  have own {e : Int × String} {value : Nat} (present : e ∈ s.entries)
      (judged : c.judge e.1 e.2 = .write f value) : c.accepted? s f = some value := by
    have index := sound.index_of_get? (judge_eq_write_iff.1 judged).2.1
    exact (accepted?_eq_some_iff sound member).2 ⟨e.2, index ▸ present, index ▸ judged⟩
  have fits : (c.accepted? s f).getD (f.extract word) < Word.span f.width := by
    cases taken : c.accepted? s f with
    | none => exact f.extract_lt word
    | some value =>
      obtain ⟨_, _, judged⟩ := (accepted?_eq_some_iff sound member).1 taken
      exact Field.encode?_lt (judge_eq_write_iff.1 judged).2.2
  refine Field.extract_eq_of_testBit fits fun b inside => ?_
  by_cases decided : ∃ e ∈ s.entries, ∃ g value,
      c.judge e.1 e.2 = .write g value ∧ g.Holds f.register (f.start + b)
  · refine testBit_settle_of_agree s.entries word ?_ decided
    intro e present g value judged there
    by_cases same : f = g
    · subst same
      rw [own present judged, Option.getD_some, Nat.add_sub_cancel_left]
    · obtain ⟨_, found, known⟩ := judge_eq_write_iff.1 judged
      exact agree g (Layout.mem_of_get? found) same b inside there value
        (mem_values_of_encode? known)
  · -- An accepted entry of the field's own would decide its bits.
    have skipped : c.accepted? s f = none := by
      rw [Option.eq_none_iff_forall_not_mem]
      intro value taken
      obtain ⟨label, present, judged⟩ := (accepted?_eq_some_iff sound member).1 taken
      have here : f.Holds f.register (f.start + b) := Field.holds_of_lt BEq.rfl inside
      exact decided ⟨(f.index, label), present, f, value, judged, here⟩
    have untouched := testBit_settle_of_free s.entries word
      fun e present g value judged there => decided ⟨e, present, g, value, judged, there⟩
    rw [untouched, skipped, Option.getD_none, Field.testBit_extract, decide_eq_true inside,
      Bool.true_and]

theorem extract_settle (sound : c.layout.Sound) (member : f ∈ c.layout.toList)
    (unshared : c.layout.Unshared f) (word : Int) :
    f.extract (c.settle f.register s.entries word) =
      (c.accepted? s f).getD (f.extract word) := by
  refine extract_settle_of_agree sound member word fun g other different b inside there => ?_
  have here : f.Holds f.register (f.start + b) := Field.holds_of_lt BEq.rfl inside
  exact absurd (unshared g other _ _ here there) different

section Read

variable {result : Compiled} (declared : c.Declared) (member : f ∈ c.layout.toList)
  (compiled : c.compile s = .ok result)

include declared member compiled

theorem fieldValue_eq_settle : result.image.fieldValue f =
    .ok (f.extract (c.settle f.register s.entries (c.resetOf f.register))) := by
  have present := declared f member
  cases found : c.registers.get? f.register with
  | none => simp [OrderedMap.contains_eq_isSome, found] at present
  | some register =>
    simp only [Image.fieldValue, Image.word, word_compile declared compiled found, Except.map,
      Field.extract_cut, resetOf, found, Option.map_some, Option.getD_some]

theorem fieldValue_compile (sound : c.layout.Sound) (unshared : c.layout.Unshared f) :
    result.image.fieldValue f = .ok (c.bitsOf s f) := by
  rw [fieldValue_eq_settle declared member compiled, extract_settle sound member unshared, bitsOf]

end Read

theorem decode_eq (sound : c.layout.Sound) {image : Image} {bits : Field → Nat}
    (read : ∀ f ∈ c.layout.toList, image.fieldValue f = .ok (bits f)) :
    ∃ decoded, c.decode image = .ok decoded ∧ decoded.entries =
      c.layout.toList.filterMap fun f => f.choice? (bits f) := by
  have labels : (c.layout.toList.mapM fun f => do
      let value ← image.fieldValue f
      return (f.labelOf? value).map fun label => (f.index, label)) =
        .ok (c.layout.toList.map fun f => f.choice? (bits f)) := by
    apply mapM_eq_ok_map
    intro f member
    rw [read f member]
    rfl
  refine ⟨_, by rw [decode, labels]; rfl, ?_⟩
  rw [List.filterMap_map]
  refine OrderedMap.entries_ofList ?_
  have apart := List.pairwise_map.1 sound.nodup_index
  refine List.pairwise_filterMap.2 (apart.imp ?_)
  intro f g different a left b right
  simp only [Function.comp, id, Field.choice?, Option.map_eq_some_iff] at left right
  obtain ⟨_, _, rfl⟩ := left
  obtain ⟨_, _, rfl⟩ := right
  simpa using different

theorem keys_labels (fields : List Field) (bits : Field → Nat) :
    (fields.filterMap fun f => f.choice? (bits f)).map (·.1) =
      (fields.filter fun f => bits f ∈ f.values.values).map (·.index) := by
  induction fields with
  | nil => rfl
  | cons f rest ih =>
    cases named : f.labelOf? (bits f) with
    | none =>
      have unknown : bits f ∉ f.values.values := by simp [← Field.labelOf?_isSome_iff, named]
      have skipped : f.choice? (bits f) = none := by rw [Field.choice?, named]; rfl
      simp [skipped, unknown, ih]
    | some label =>
      have known : bits f ∈ f.values.values := by simp [← Field.labelOf?_isSome_iff, named]
      have taken : f.choice? (bits f) = some (f.index, label) := by rw [Field.choice?, named]; rfl
      simp [taken, known, ih]

theorem decode_labels (sound : c.layout.Sound) {image : Image} {bits : Field → Nat}
    (read : ∀ f ∈ c.layout.toList, image.fieldValue f = .ok (bits f)) :
    ∃ decoded, c.decode image = .ok decoded ∧
      decoded.keys =
        (c.layout.toList.filter fun f => bits f ∈ f.values.values).map (·.index) ∧
      ∀ f ∈ c.layout.toList, ∀ label,
        decoded.get? f.index = some label ↔ f.FirstLabel (bits f) label := by
  obtain ⟨decoded, done, entries⟩ := decode_eq sound read
  refine ⟨decoded, done, ?_, ?_⟩
  · rw [OrderedMap.keys, entries, keys_labels]
  · intro f member label
    rw [OrderedMap.get?_eq_some_iff, entries, List.mem_filterMap, ← Field.labelOf?_eq_some_iff]
    constructor
    · rintro ⟨g, present, named⟩
      obtain ⟨_, found, same⟩ := Option.map_eq_some_iff.1 named
      obtain ⟨index, rfl⟩ := Prod.mk.inj same
      have one : g = f := by
        have here := sound.get?_of_mem present
        rw [index, sound.get?_of_mem member] at here
        exact (Option.some.inj here).symm
      rwa [one] at found
    · intro named
      exact ⟨f, member, by rw [Field.choice?, named]; rfl⟩

/-- Decoding a compiled image gives each mapped index the first label of its value, and a label that
counts comes back itself where no two labels share a value. No field may stand in NaN. -/
theorem decode_compile (c : Compiler) (reachable : c.layout.Reachable) (named : c.layout.Named)
    (declared : c.Declared) (s : Snapshot) :
    ∃ result decoded, c.compile s = .ok result ∧ c.decode result.image = .ok decoded ∧
      decoded.keys =
        (c.layout.toList.filter fun f => c.bitsOf s f ∈ f.values.values).map (·.index) ∧
      (∀ f ∈ c.layout.toList, ∀ label,
        decoded.get? f.index = some label ↔ f.FirstLabel (c.bitsOf s f) label) ∧
      ∀ index label f, (index, label) ∈ s.entries → index ∉ c.informational →
        c.layout.get? index = some f → f.values.contains label = true →
        f.values.values.Nodup → decoded.get? index = some label := by
  have sound := reachable.sound
  have compiled := compile_eq declared s
  obtain ⟨decoded, done, keys, labels⟩ :=
    decode_labels sound fun f member =>
      fieldValue_compile declared member compiled sound (sound.unshared member (named f member))
  refine ⟨_, decoded, compiled, done, keys, labels, ?_⟩
  intro index label f present counted mapped known apart
  obtain ⟨value, encoded⟩ : ∃ value, f.encode? label = some value :=
    Option.isSome_iff_exists.1 ((f.values.contains_eq_isSome label).symm.trans known)
  have member := Layout.mem_of_get? mapped
  have index_eq := sound.index_of_get? mapped
  have judged : c.judge index label = .write f value :=
    judge_eq_write_iff.2 ⟨counted, mapped, encoded⟩
  have taken : c.accepted? s f = some value :=
    (accepted?_eq_some_iff sound member).2 ⟨label, index_eq ▸ present, index_eq ▸ judged⟩
  rw [← index_eq, labels f member, ← Field.labelOf?_eq_some_iff, bitsOf, taken]
  exact Field.labelOf?_of_nodup apart encoded

theorem decode_compile_twoFields :
    ∃ result decoded, twoFields.compile threeChoices = .ok result ∧
      twoFields.decode result.image = .ok decoded ∧
      decoded.keys = [1, 2] ∧ decoded.get? 1 = some "fast" ∧ decoded.get? 2 = some "off" := by
  obtain ⟨result, decoded, compiled, done, keys, labels, _⟩ :=
    decode_compile twoFields reachable_twoFields named_twoFields declared_twoFields threeChoices
  have first : twoFields.layout.get? 1 = some mode := rfl
  have second : twoFields.layout.get? 2 = some lock := rfl
  refine ⟨result, decoded, compiled, done, keys, ?_, ?_⟩
  · exact (labels mode (Layout.mem_of_get? first) "fast").2
      ⟨[("slow", 1)], [("turbo", 2)], rfl, by decide⟩
  · exact (labels lock (Layout.mem_of_get? second) "off").2
      ⟨[("on", 4)], [], rfl, by decide⟩

end Compiler
end ConfigWords
