import ConfigWords.Device
import ConfigWords.Proofs.Decoding
import ConfigWords.Proofs.Description.Reading
import ConfigWords.Proofs.Diagnostics

/-! Compiling what was decoded.
Decoding names the bits of a field by a label that has exactly these bits, so compiling the labels
writes the same bits again. Bits without a label are lost: the field is left at its reset value,
which may have a label of its own. A compiled image has such bits only where fields share them: the
field that was written last may leave the other one without a label. -/
namespace ConfigWords

theorem Word.cut_congr {m n : Int} (same : ∀ b < bits, m.testBit b = n.testBit b) :
    cut m = cut n := by
  apply Nat.eq_of_testBit_eq
  intro b
  by_cases low : b < bits
  · exact (testBit_cut m low).trans ((same b low).trans (testBit_cut n low).symm)
  · have high := Nat.le_of_not_lt low
    rw [testBit_of_lt_span (cut_lt m) high, testBit_of_lt_span (cut_lt n) high]

theorem Word.testBit_erased {b : Nat} (low : b < bits) : erased.testBit b = true := by
  revert b
  decide

theorem Field.testBit_extract_of_holds {f : Field} {register : Scalar} {b : Nat}
    (holds : f.Holds register b) (word : Int) :
    (f.extract word).testBit (b - f.start) = word.testBit b := by
  rw [testBit_extract, decide_eq_true holds.sub_lt, Bool.true_and, Nat.add_sub_cancel' holds.2.1]

theorem Field.FirstLabel.encode? {f : Field} {value : Nat} {label : String}
    (first : f.FirstLabel value label) : f.encode? label = some value := by
  obtain ⟨before, after, split, _⟩ := first
  exact OrderedMap.get?_eq_some_iff.2 (by simp [split])

theorem Field.exists_firstLabel_iff {f : Field} {value : Nat} :
    (∃ label, f.FirstLabel value label) ↔ value ∈ f.values.values := by
  rw [← labelOf?_isSome_iff, Option.isSome_iff_exists]
  exact exists_congr fun label => labelOf?_eq_some_iff.symm

def Image.bitsAt (image : Image) (f : Field) : Nat :=
  f.extract ((image.words.get? f.register).getD 0)

theorem Image.fieldValue_eq {image : Image} {f : Field}
    (present : image.words.contains f.register = true) :
    image.fieldValue f = .ok (image.bitsAt f) := by
  obtain ⟨word, found⟩ := OrderedMap.contains_iff_exists.1 present
  simp [fieldValue, Image.word, bitsAt, found, Except.map]

theorem Image.bitsAt_eq {image : Image} {f : Field} {name : Scalar} {word : Int}
    (found : image.words.get? name = some word) (same : (f.register == name) = true) :
    image.bitsAt f = f.extract word := by
  rw [bitsAt, image.words.get?_congr same, found, Option.getD_some]

namespace Compiler

variable {c : Compiler} {s decoded : Snapshot} {bits : Field → Nat} {f : Field}

/-- The snapshot gives each field the first label of its bits, and says nothing else. -/
structure Names (c : Compiler) (bits : Field → Nat) (decoded : Snapshot) : Prop where
  indexed : ∀ e ∈ decoded.entries, ∃ f ∈ c.layout.toList, f.index = e.1
  labels : ∀ f ∈ c.layout.toList, ∀ label,
    decoded.get? f.index = some label ↔ f.FirstLabel (bits f) label

def Counted (c : Compiler) : Prop := ∀ f ∈ c.layout.toList, f.index ∉ c.informational

theorem exists_names (sound : c.layout.Sound) {image : Image}
    (read : ∀ f ∈ c.layout.toList, image.fieldValue f = .ok (bits f)) :
    ∃ decoded, c.decode image = .ok decoded ∧ c.Names bits decoded := by
  obtain ⟨decoded, done, keys, labels⟩ := decode_labels sound read
  refine ⟨decoded, done, ?_, labels⟩
  intro e member
  have key : e.1 ∈ decoded.keys := List.mem_map_of_mem member
  rw [keys] at key
  obtain ⟨f, present, same⟩ := List.mem_map.1 key
  exact ⟨f, (List.mem_filter.1 present).1, same⟩

theorem Names.exists_field (names : c.Names bits decoded) {e : Int × String}
    (member : e ∈ decoded.entries) :
    ∃ f ∈ c.layout.toList, f.index = e.1 ∧ f.FirstLabel (bits f) e.2 := by
  obtain ⟨f, present, same⟩ := names.indexed e member
  have found : decoded.get? f.index = some e.2 := same ▸ OrderedMap.get?_of_mem member
  exact ⟨f, present, same, (names.labels f present e.2).1 found⟩

theorem judge_of_firstLabel (sound : c.layout.Sound) (counted : c.Counted)
    (member : f ∈ c.layout.toList) {value : Nat} {label : String}
    (first : f.FirstLabel value label) : c.judge f.index label = .write f value :=
  judge_eq_write_iff.2 ⟨counted f member, sound.get?_of_mem member, first.encode?⟩

section Names

variable (names : c.Names bits decoded) (sound : c.layout.Sound) (counted : c.Counted)

include names sound counted

theorem Names.diagnostics_eq_nil : c.diagnostics decoded = [] := by
  rw [List.eq_nil_iff_forall_not_mem]
  intro problem reported
  obtain ⟨e, member, judged⟩ := mem_diagnostics_iff.1 reported
  obtain ⟨f, present, same, first⟩ := names.exists_field member
  rw [← same, judge_of_firstLabel sound counted present first] at judged
  cases judged

end Names

theorem mem_values_of_accepted? {value : Nat} (taken : c.accepted? s f = some value) :
    value ∈ f.values.values := by
  unfold accepted? at taken
  split at taken
  · cases taken
  · obtain ⟨label, _, known⟩ := Option.bind_eq_some_iff.1 taken
    exact mem_values_of_encode? known

theorem Names.get?_eq (names : c.Names bits decoded) {bits' : Field → Nat} {again : Snapshot}
    (second : c.Names bits' again)
    (same : ∀ f ∈ c.layout.toList, bits f ∈ f.values.values → bits' f = bits f)
    {index : Int} (present : index ∈ decoded.keys) : again.get? index = decoded.get? index := by
  obtain ⟨e, member, rfl⟩ := List.mem_map.1 present
  obtain ⟨f, field, index, first⟩ := names.exists_field member
  have known := Field.exists_firstLabel_iff.1 ⟨e.2, first⟩
  rw [← index, (names.labels f field e.2).2 first]
  exact (second.labels f field e.2).2 ((same f field known).symm ▸ first)

section Words

variable {name : Scalar} {register : Register} {b : Nat}

theorem resetOf_eq (found : c.registers.get? name = some register)
    (same : (f.register == name) = true) : c.resetOf f.register = register.reset := by
  rw [resetOf, c.registers.get?_congr same, found, Option.map_some, Option.getD_some]

theorem testBit_settle_of_holds (sound : c.layout.Sound)
    (found : c.registers.get? name = some register) (member : f ∈ c.layout.toList)
    (unshared : c.layout.Unshared f) (holds : f.Holds name b) :
    (c.settle name s.entries register.reset).testBit b = (c.bitsOf s f).testBit (b - f.start) := by
  rw [bitsOf, resetOf_eq found holds.1, ← extract_settle sound member unshared,
    Field.testBit_extract_of_holds holds, settle_congr c holds.1]

theorem testBit_settle_of_unheld (free : ¬ ∃ f ∈ c.layout.toList, f.Holds name b) (word : Int) :
    (c.settle name s.entries word).testBit b = word.testBit b := by
  refine testBit_settle_of_free s.entries word ?_
  intro e _ g value judged holds
  exact free ⟨g, Layout.mem_of_get? (judge_eq_write_iff.1 judged).2.1, holds⟩

end Words

def ResetsToErased (c : Compiler) : Prop := ∀ e ∈ c.registers.entries, e.2.reset = Word.erased

def Covers (c : Compiler) (image : Image) : Prop :=
  ∀ name ∈ c.registers.keys, image.words.contains name = true

/-- The bit belongs to a field whose bits in the image have a label. -/
def Named (c : Compiler) (image : Image) (register : Scalar) (b : Nat) : Prop :=
  ∃ f ∈ c.layout.toList, f.Holds register b ∧
    ∃ value, image.fieldValue f = .ok value ∧ value ∈ f.values.values

/-- The words of two images over some registers: a bit of a field whose bits have a label stands as
it stood, and every other bit is one. -/
def KeepsNamed (c : Compiler) (image next : Image) : Prop :=
  ∀ name ∈ c.registers.keys, ∃ old new, image.words.get? name = some old ∧
    next.words.get? name = some new ∧ ∀ b < 32,
      (c.Named image name b → new.testBit b = old.testBit b) ∧
      (¬ c.Named image name b → new.testBit b = true)

theorem covers_compile (declared : c.Declared) {result : Compiled}
    (compiled : c.compile s = .ok result) : c.Covers result.image := by
  intro name member
  rw [image_of_compile declared compiled, OrderedMap.contains_mapValues]
  exact OrderedMap.contains_of_mem_keys member

section Images

variable {image : Image}

theorem Covers.read (covers : c.Covers image) (declared : c.Declared)
    (member : f ∈ c.layout.toList) : image.fieldValue f = .ok (image.bitsAt f) := by
  obtain ⟨e, present, same⟩ := List.any_eq_true.1 (declared f member)
  have covered := covers e.1 (List.mem_map_of_mem present)
  rw [OrderedMap.contains_eq_isSome, image.words.get?_congr same,
    ← OrderedMap.contains_eq_isSome] at covered
  exact Image.fieldValue_eq covered

section Bits

variable {name : Scalar} {b : Nat} (names : c.Names image.bitsAt decoded)
  (sound : c.layout.Sound) (counted : c.Counted)

include names sound counted

theorem Names.writes {e : Int × String} (member : e ∈ decoded.entries) {value : Nat}
    (judged : c.judge e.1 e.2 = .write f value) :
    f ∈ c.layout.toList ∧ value = image.bitsAt f ∧ image.bitsAt f ∈ f.values.values := by
  obtain ⟨g, present, same, first⟩ := names.exists_field member
  rw [← same, judge_of_firstLabel sound counted present first, Verdict.write.injEq] at judged
  obtain ⟨rfl, rfl⟩ := judged
  exact ⟨present, rfl, Field.exists_firstLabel_iff.1 ⟨e.2, first⟩⟩

/-- Fields that share a bit agree about it, since both were decoded from one word. -/
theorem Names.testBit_settle_of_named (declared : c.Declared) (covers : c.Covers image) {old : Int}
    (before : image.words.get? name = some old) (named : c.Named image name b) (word : Int) :
    (c.settle name decoded.entries word).testBit b = old.testBit b := by
  obtain ⟨f, member, holds, value, read, known⟩ := named
  cases (covers.read declared member).symm.trans read
  obtain ⟨label, first⟩ := Field.exists_firstLabel_iff.2 known
  have present := OrderedMap.get?_eq_some_iff.1 ((names.labels f member label).2 first)
  refine testBit_settle_of_agree decoded.entries word ?_
    ⟨_, present, f, _, judge_of_firstLabel sound counted member first, holds⟩
  intro e listed g value judged here
  obtain ⟨_, rfl, _⟩ := names.writes sound counted listed judged
  rw [Image.bitsAt_eq before here.1, Field.testBit_extract_of_holds here]

theorem Names.testBit_settle_of_unnamed (declared : c.Declared) (covers : c.Covers image)
    (unnamed : ¬ c.Named image name b) (word : Int) :
    (c.settle name decoded.entries word).testBit b = word.testBit b := by
  refine testBit_settle_of_free decoded.entries word ?_
  intro e listed g value judged here
  obtain ⟨member, _, known⟩ := names.writes sound counted listed judged
  exact unnamed ⟨g, member, here, _, covers.read declared member, known⟩

end Bits

theorem Names.keepsNamed (names : c.Names image.bitsAt decoded) (sound : c.layout.Sound)
    (counted : c.Counted) (declared : c.Declared) (resets : c.ResetsToErased)
    (covers : c.Covers image) {result : Compiled} (compiled : c.compile decoded = .ok result) :
    c.KeepsNamed image result.image := by
  intro name present
  obtain ⟨e, member, rfl⟩ := List.mem_map.1 present
  have found := OrderedMap.get?_of_mem member
  obtain ⟨old, before⟩ := OrderedMap.contains_iff_exists.1 (covers e.1 present)
  refine ⟨old, _, before, word_compile declared compiled found, fun b low => ?_⟩
  rw [Word.testBit_cut _ low]
  constructor
  · exact fun named =>
      names.testBit_settle_of_named sound counted declared covers before named e.2.reset
  · intro unnamed
    rw [names.testBit_settle_of_unnamed sound counted declared covers unnamed, resets e member,
      Word.testBit_erased low]

theorem KeepsNamed.bitsAt_eq {next : Image} (kept : c.KeepsNamed image next)
    (declared : c.Declared) (covers : c.Covers image) (member : f ∈ c.layout.toList)
    (known : image.bitsAt f ∈ f.values.values) : next.bitsAt f = image.bitsAt f := by
  obtain ⟨e, present, same⟩ := List.any_eq_true.1 (declared f member)
  have here : (f.register == e.1) = true := BEq.symm same
  obtain ⟨old, new, before, behind, bits⟩ := kept e.1 (List.mem_map_of_mem present)
  rw [Image.bitsAt_eq before here, Image.bitsAt_eq behind here]
  refine Field.extract_congr fun b inside => ?_
  have reach := f.start_add_width_le
  rw [Word.bits] at reach
  have holds : f.Holds e.1 (f.start + b) := Field.holds_of_lt here inside
  exact (bits (f.start + b) (by omega)).1 ⟨f, member, holds, _, covers.read declared member, known⟩

end Images

/-- Every bit that belongs to no field with a label is one. -/
def ErasedElsewhere (c : Compiler) (image : Image) : Prop :=
  ∀ name ∈ c.registers.keys, ∃ word, image.words.get? name = some word ∧
    ∀ b < 32, ¬ c.Named image name b → word.testBit b = true

/-- Compiling, decoding and compiling again, each time with a log, gives the image once more. -/
def ComesBack (c : Compiler) (s : Snapshot) : Prop :=
  ∃ image decoded, c.Gives s image ∧ c.decode image = .ok decoded ∧ c.Gives decoded image

section Compiled

variable {result again : Compiled} (declared : c.Declared)
  (compiled : c.compile s = .ok result)

include declared compiled

/-- A compiled image comes back exactly if every bit that no label accounts for is one. -/
theorem Names.image_eq_iff (names : c.Names result.image.bitsAt decoded) (sound : c.layout.Sound)
    (counted : c.Counted) (resets : c.ResetsToErased) (second : c.compile decoded = .ok again) :
    again.image = result.image ↔ c.ErasedElsewhere result.image := by
  have covers := covers_compile declared compiled
  constructor
  · intro same name present
    obtain ⟨old, new, _, behind, bits⟩ :=
      names.keepsNamed sound counted declared resets covers second name present
    exact ⟨new, same ▸ behind, fun b low => (bits b low).2⟩
  · intro erased
    have words : ∀ e ∈ c.registers.entries, result.image.words.get? e.1 =
        some (Word.cut (c.settle e.1 s.entries e.2.reset) : Int) := fun e member =>
      word_compile declared compiled (OrderedMap.get?_of_mem member)
    rw [image_of_compile declared compiled, image_of_compile declared second]
    refine congrArg Image.mk (OrderedMap.mapValues_congr fun e member => ?_)
    refine congrArg Int.ofNat (Word.cut_congr fun b low => ?_)
    by_cases named : c.Named result.image e.1 b
    · rw [names.testBit_settle_of_named sound counted declared covers (words e member) named,
        Word.testBit_cut _ low]
    · obtain ⟨word, found, ones⟩ := erased e.1 (List.mem_map_of_mem member)
      rw [words e member, Option.some.injEq] at found
      have one := ones b low named
      rw [← found, Word.testBit_cut _ low] at one
      rw [names.testBit_settle_of_unnamed sound counted declared covers named, one,
        resets e member, Word.testBit_erased low]

omit declared in
/-- Compiling what was decoded reports nothing, so only a problem of the snapshot can stop a log. -/
theorem comesBack_iff (done : c.decode result.image = .ok decoded)
    (second : c.compile decoded = .ok again) (clean : again.diagnostics = []) :
    c.ComesBack s ↔
      again.image = result.image ∧ ∀ problem ∈ result.diagnostics, problem.writable = true := by
  constructor
  · rintro ⟨image, other, first, read, gives⟩
    obtain ⟨rfl, shown⟩ := (gives_iff compiled).1 first
    cases done.symm.trans read
    exact ⟨((gives_iff second).1 gives).1, shown⟩
  · rintro ⟨same, shown⟩
    have silent : ∀ problem ∈ again.diagnostics, problem.writable = true := by simp [clean]
    exact ⟨result.image, decoded, (gives_iff compiled).2 ⟨rfl, shown⟩, done,
      (gives_iff second).2 ⟨same, silent⟩⟩

/-- Where no bit belongs to two fields, what no label accounts for was never written. -/
theorem erasedElsewhere_compile (sound : c.layout.Sound) (resets : c.ResetsToErased)
    (unshared : ∀ f ∈ c.layout.toList, c.layout.Unshared f) :
    c.ErasedElsewhere result.image := by
  intro name present
  obtain ⟨e, member, rfl⟩ := List.mem_map.1 present
  have found := OrderedMap.get?_of_mem member
  refine ⟨_, word_compile declared compiled found, fun b low unnamed => ?_⟩
  rw [Word.testBit_cut _ low]
  have reset : e.2.reset.testBit b = true := by rw [resets e member, Word.testBit_erased low]
  by_cases held : ∃ f ∈ c.layout.toList, f.Holds e.1 b
  · obtain ⟨f, listed, holds⟩ := held
    have read := fieldValue_compile declared listed compiled sound (unshared f listed)
    have skipped : c.accepted? s f = none := by
      cases taken : c.accepted? s f with
      | none => rfl
      | some value =>
        rw [bitsOf, taken, Option.getD_some] at read
        exact (unnamed ⟨f, listed, holds, value, read, mem_values_of_accepted? taken⟩).elim
    rw [testBit_settle_of_holds sound found listed (unshared f listed) holds, bitsOf, skipped,
      Option.getD_none, resetOf_eq found holds.1, Field.testBit_extract_of_holds holds, reset]
  · rw [testBit_settle_of_unheld held, reset]

end Compiled

end Compiler

namespace Description

theorem reset_of_readRegisters {tree : Tree} {registers : Registers}
    (read : readRegisters tree = .ok registers) :
    ∀ e ∈ registers.entries, e.2.reset = Word.erased := by
  unfold readRegisters at read
  split at read
  · cases read
  · simp only [bind_eq_ok, pure_eq_ok] at read
    obtain ⟨_, _, pairs, each, rfl⟩ := read
    intro e member
    obtain ⟨pair, present, same⟩ := List.mem_map.1 (OrderedMap.value_mem_of_ofList member)
    obtain ⟨_, _, made⟩ := exists_mem_of_mapM each present
    obtain ⟨_, _, written⟩ := bind_eq_ok.1 made
    cases pure_eq_ok.1 written
    rw [← same]

variable {tree : Tree} {d : Description}

theorem resets_of_ofTree (read : ofTree tree = .ok d) :
    (Device.compilerOf d).ResetsToErased := by
  obtain ⟨⟨_, declared⟩, _⟩ := parts_of_ofTree read
  exact reset_of_readRegisters declared

theorem counted_of_ofTree (read : ofTree tree = .ok d) : (Device.compilerOf d).Counted := by
  intro f member
  obtain ⟨together, pins⟩ := ofTree_eq_ok read
  have found := together.reachable.sound.get?_of_mem member
  exact (sound_of_matched together pins).not_informational found

/-- What comes of decoding an image and compiling the labels: the bits with labels, and ones. A
compiled image comes back as it is exactly if every other bit of it is one, and always where no two
fields share a bit. With a log the problems of the snapshot must be put in words besides. -/
theorem recompile_decoded (read : ofTree tree = .ok d) :
    (∀ image, (Device.compilerOf d).Covers image →
      ∃ decoded result again, (Device.compilerOf d).decode image = .ok decoded ∧
        (Device.compilerOf d).compile decoded = .ok result ∧
        (Device.compilerOf d).decode result.image = .ok again ∧
        result.diagnostics = [] ∧ result.image.words.keys = d.registers.keys ∧
        (∀ e ∈ result.image.words.entries, 0 ≤ e.2 ∧ e.2 < 0x100000000) ∧
        (Device.compilerOf d).KeepsNamed image result.image ∧
        ∀ index ∈ decoded.keys, again.get? index = decoded.get? index) ∧
    ∀ s, ∃ result decoded again, (Device.compilerOf d).compile s = .ok result ∧
      (Device.compilerOf d).decode result.image = .ok decoded ∧
      (Device.compilerOf d).compile decoded = .ok again ∧
      (again.image = result.image ↔ (Device.compilerOf d).ErasedElsewhere result.image) ∧
      ((∀ register, d.layout.DisjointIn register) → again.image = result.image) ∧
      ((Device.compilerOf d).ComesBack s ↔
        again.image = result.image ∧ ∀ problem ∈ result.diagnostics, problem.writable = true) := by
  have sound := (ofTree_eq_ok read).1.reachable.sound
  have declared : (Device.compilerOf d).Declared := (ofTree_eq_ok read).1.declared
  have counted := counted_of_ofTree read
  have resets := resets_of_ofTree read
  constructor
  · intro image covers
    obtain ⟨decoded, done, names⟩ :=
      Compiler.exists_names sound fun _ member => covers.read declared member
    have compiled := Compiler.compile_eq declared decoded
    have kept := names.keepsNamed sound counted declared resets covers compiled
    obtain ⟨again, second, renamed⟩ := Compiler.exists_names sound fun _ member =>
      (Compiler.covers_compile declared compiled).read declared member
    refine ⟨decoded, _, again, done, compiled, second,
      names.diagnostics_eq_nil sound counted, OrderedMap.keys_mapValues _ _,
      Compiler.range_compile declared compiled, kept, ?_⟩
    exact fun index present => names.get?_eq renamed
      (fun _ member named => kept.bitsAt_eq declared covers member named) present
  · intro s
    have compiled := Compiler.compile_eq declared s
    obtain ⟨decoded, done, names⟩ := Compiler.exists_names sound fun _ member =>
      (Compiler.covers_compile declared compiled).read declared member
    have second := Compiler.compile_eq declared decoded
    have back := names.image_eq_iff declared compiled sound counted resets second
    have clean := names.diagnostics_eq_nil sound counted
    refine ⟨_, decoded, _, compiled, done, second, back, fun disjoint => back.2 ?_,
      Compiler.comesBack_iff compiled done second clean⟩
    exact Compiler.erasedElsewhere_compile declared compiled sound resets fun f member =>
      Layout.unshared_of_disjointIn member (disjoint f.register)

/-- The bits of the one field have the value 2, which no label has. -/
theorem recompile_decoded_clock :
    ∃ d decoded result word, ofTree clockTree = .ok d ∧
      (Device.compilerOf d).decode ⟨OrderedMap.ofList [(.text "CFG", 0x20)]⟩ = .ok decoded ∧
      (Device.compilerOf d).compile decoded = .ok result ∧ result.diagnostics = [] ∧
      result.image.words.get? (.text "CFG") = some word ∧ ∀ b < 32, word.testBit b = true := by
  obtain ⟨d, read, declared, f, fields, place, values⟩ : ∃ d, ofTree clockTree = .ok d ∧
      d.registers.keys = [.text "CFG"] ∧ ∃ f, d.layout.toList = [f] ∧
        (⟨OrderedMap.ofList [(.text "CFG", 0x20)]⟩ : Image).fieldValue f = .ok 2 ∧
        f.values.values = [3, 1] :=
    ⟨_, rfl, rfl, _, rfl, rfl, rfl⟩
  have covers : (Device.compilerOf d).Covers ⟨OrderedMap.ofList [(.text "CFG", 0x20)]⟩ := by
    intro name member
    rw [Device.compilerOf, declared, List.mem_singleton] at member
    rw [member]
    rfl
  obtain ⟨decoded, result, _, done, compiled, _, clean, _, _, kept, _⟩ :=
    (recompile_decoded read).1 _ covers
  obtain ⟨_, word, _, found, bits⟩ := kept (.text "CFG") (declared ▸ .head _)
  refine ⟨d, decoded, result, word, read, done, compiled, clean, found, ?_⟩
  intro b low
  apply (bits b low).2
  rintro ⟨g, member, _, value, there, known⟩
  rw [Device.compilerOf, fields, List.mem_singleton] at member
  subst member
  cases there.symm.trans place
  rw [values] at known
  exact absurd known (by decide)

/-- The second field leaves a bit of the first one zero and the first one without a label, so the
zeros do not come back. -/
theorem shared_bits_lost :
    ∃ d result decoded again, ofTree sharedTree = .ok d ∧
      (Device.compilerOf d).compile (OrderedMap.ofList [(1, "0"), (2, "3")]) = .ok result ∧
      result.image.words.get? (.float .nan) = some 0xFFFFFFFE ∧
      (Device.compilerOf d).decode result.image = .ok decoded ∧ decoded.entries = [(2, "3")] ∧
      (Device.compilerOf d).compile decoded = .ok again ∧
      again.image.words.get? (.float .nan) = some 0xFFFFFFFF :=
  ⟨_, _, _, _, rfl, rfl, rfl, rfl, rfl, rfl, rfl⟩

end Description
end ConfigWords
