import ConfigWords.Compiler
import ConfigWords.Proofs.Bits
import ConfigWords.Proofs.Layout

/-! What compiling does to each word.
The run over a snapshot carries all words at once. It is the same as a run for each register on its
own, and there each bit is decided by at most one entry: the layout gives the bit to one field, and
the snapshot gives the field one label. -/
namespace ConfigWords

def Verdict.effect (verdict : Verdict) (register : Scalar) (word : Int) : Int :=
  match verdict with
  | .pass | .report _ => word
  | .write f value => if f.register == register then f.write word value else word

namespace Compiler

def Declared (c : Compiler) : Prop :=
  ∀ f ∈ c.layout.toList, c.registers.contains f.register = true

def settle (c : Compiler) (register : Scalar) (entries : List (Int × String)) (word : Int) : Int :=
  entries.foldl (fun w e => (c.judge e.1 e.2).effect register w) word

theorem judge_eq_write_iff {c : Compiler} {index : Int} {label : String} {f : Field}
    {value : Nat} :
    c.judge index label = .write f value ↔
      index ∉ c.informational ∧ c.layout.get? index = some f ∧ f.encode? label = some value := by
  unfold judge
  by_cases passed : index ∈ c.informational
  · simp [passed]
  · cases mapped : c.layout.get? index with
    | none => simp [passed]
    | some g =>
      cases known : g.encode? label with
      | none =>
        simp only [passed, if_false, known, reduceCtorEq, not_false_eq_true, Option.some.injEq,
          true_and, false_iff, not_and]
        rintro rfl
        simp [known]
      | some v =>
        simp only [passed, if_false, known, Verdict.write.injEq, not_false_eq_true,
          Option.some.injEq, true_and]
        constructor
        · rintro ⟨rfl, rfl⟩
          exact ⟨rfl, known⟩
        · rintro ⟨rfl, same⟩
          exact ⟨rfl, Option.some.inj (known.symm.trans same)⟩

section Words

variable {c : Compiler} {words : OrderedMap Scalar Int}

theorem effect_congr (verdict : Verdict) {r q : Scalar} (same : (r == q) = true) (word : Int) :
    verdict.effect r word = verdict.effect q word := by
  cases verdict with
  | pass => rfl
  | report _ => rfl
  | write f value => simp only [Verdict.effect, BEq.congr_right same]

theorem settle_congr (c : Compiler) {r q : Scalar} (same : (r == q) = true)
    (entries : List (Int × String)) (word : Int) :
    c.settle r entries word = c.settle q entries word := by
  simp only [settle, effect_congr _ same]

theorem apply_eq (declared : ∀ f ∈ c.layout.toList, words.contains f.register = true)
    (e : Int × String) :
    c.apply words e = .ok (words.mapValues fun r w => (c.judge e.1 e.2).effect r w) := by
  unfold apply
  cases judged : c.judge e.1 e.2 with
  | pass => exact congrArg Except.ok words.mapValues_id.symm
  | report _ => exact congrArg Except.ok words.mapValues_id.symm
  | write f value =>
    have present := declared f (Layout.mem_of_get? (judge_eq_write_iff.1 judged).2.1)
    cases found : words.get? f.register with
    | none => simp [OrderedMap.contains_eq_isSome, found] at present
    | some word =>
      simp only [found, OrderedMap.insert_of_contains present]
      congr 1
      apply OrderedMap.mapValues_congr
      intro entry member
      by_cases hit : entry.1 == f.register
      · have old : some entry.2 = some word := by
          rw [← OrderedMap.get?_of_mem member, ← found]
          exact words.get?_congr hit
        simp [Verdict.effect, hit, BEq.symm hit, Option.some.inj old]
      · have miss : (f.register == entry.1) = false := by rw [BEq.comm]; simpa using hit
        simp [Verdict.effect, hit, miss]

theorem foldlM_apply_eq (entries : List (Int × String))
    (declared : ∀ f ∈ c.layout.toList, words.contains f.register = true) :
    entries.foldlM c.apply words = .ok (words.mapValues fun r w => c.settle r entries w) := by
  induction entries generalizing words with
  | nil => exact congrArg Except.ok words.mapValues_id.symm
  | cons e rest ih =>
    rw [List.foldlM_cons, apply_eq declared]
    -- The step keeps the registers, so the rest of the run finds them declared.
    have still : ∀ f ∈ c.layout.toList,
        (words.mapValues fun r w => (c.judge e.1 e.2).effect r w).contains f.register = true := by
      intro f member
      rw [OrderedMap.contains_mapValues]
      exact declared f member
    exact (ih still).trans (congrArg Except.ok (OrderedMap.mapValues_mapValues words _ _))

end Words

theorem compile_eq {c : Compiler} (declared : c.Declared) (s : Snapshot) :
    c.compile s = .ok ⟨⟨c.registers.mapValues fun r register =>
      (Word.cut (c.settle r s.entries register.reset) : Int)⟩, c.diagnostics s⟩ := by
  have erased : ∀ f ∈ c.layout.toList,
      (Image.erased c.registers).words.contains f.register = true := by
    intro f member
    rw [Image.erased, OrderedMap.contains_mapValues]
    exact declared f member
  rw [compile, foldlM_apply_eq s.entries erased]
  simp [Image.erased, OrderedMap.mapValues_mapValues, bind, Except.bind, pure, Except.pure]

theorem exists_compile {c : Compiler} (declared : c.Declared) (s : Snapshot) :
    ∃ result, c.compile s = .ok result :=
  ⟨_, compile_eq declared s⟩

section Image

variable {c : Compiler} {s : Snapshot} {result : Compiled} (declared : c.Declared)
  (compiled : c.compile s = .ok result)

include declared compiled

theorem image_of_compile : result.image = ⟨c.registers.mapValues fun r register =>
    (Word.cut (c.settle r s.entries register.reset) : Int)⟩ := by
  cases (compile_eq declared s).symm.trans compiled
  rfl

theorem keys_of_compile : result.image.words.keys = c.registers.keys := by
  rw [image_of_compile declared compiled]
  exact OrderedMap.keys_mapValues _ _

theorem range_compile : ∀ e ∈ result.image.words.entries, 0 ≤ e.2 ∧ e.2 < 0x100000000 := by
  rw [image_of_compile declared compiled]
  intro e member
  obtain ⟨entry, _, rfl⟩ := List.mem_map.1 member
  have below := Word.cut_lt (c.settle entry.1 s.entries entry.2.reset)
  rw [Word.span_bits] at below
  exact ⟨Int.natCast_nonneg _, Int.ofNat_lt.2 below⟩

theorem word_compile {name : Scalar} {register : Register}
    (found : c.registers.get? name = some register) :
    result.image.words.get? name =
      some (Word.cut (c.settle name s.entries register.reset) : Int) := by
  rw [image_of_compile declared compiled, OrderedMap.get?_mapValues, found]
  · rfl
  · intro j r same
    rw [settle_congr c same]

end Image

section Bits

variable {c : Compiler} {register : Scalar} {b : Nat}

theorem testBit_effect_of_holds {f : Field} {label : String} {value : Nat}
    (known : f.encode? label = some value) (holds : f.Holds register b) (word : Int) :
    ((Verdict.write f value).effect register word).testBit b = value.testBit (b - f.start) := by
  rw [Verdict.effect, if_pos holds.1, Field.testBit_write f word (Field.encode?_lt known),
    if_pos holds.2]

theorem testBit_effect_of_not_holds {f : Field} {label : String} {value : Nat}
    (known : f.encode? label = some value) (free : ¬ f.Holds register b) (word : Int) :
    ((Verdict.write f value).effect register word).testBit b = word.testBit b := by
  by_cases here : f.register == register
  · have outside : ¬ (f.start ≤ b ∧ b < f.stop) := fun inside => free ⟨here, inside⟩
    rw [Verdict.effect, if_pos here, Field.testBit_write f word (Field.encode?_lt known),
      if_neg outside]
  · rw [Verdict.effect, if_neg here]

theorem testBit_settle_of_free (entries : List (Int × String)) (word : Int)
    (free : ∀ e ∈ entries, ∀ f value, c.judge e.1 e.2 = .write f value → ¬ f.Holds register b) :
    (c.settle register entries word).testBit b = word.testBit b := by
  induction entries generalizing word with
  | nil => rfl
  | cons e rest ih =>
    have tail := ih ((c.judge e.1 e.2).effect register word)
      fun e member => free e (List.mem_cons_of_mem _ member)
    refine tail.trans ?_
    cases judged : c.judge e.1 e.2 with
    | pass => rfl
    | report _ => rfl
    | write f value =>
      exact testBit_effect_of_not_holds (judge_eq_write_iff.1 judged).2.2
        (free e (by simp) f value judged) word

/-- Entries that write nothing can be left out. -/
theorem settle_filter (keep : Int × String → Bool) (entries : List (Int × String))
    (kept : ∀ e ∈ entries, ∀ f value, c.judge e.1 e.2 = .write f value → keep e = true)
    (word : Int) : c.settle register (entries.filter keep) word = c.settle register entries word := by
  induction entries generalizing word with
  | nil => rfl
  | cons e rest ih =>
    obtain ⟨first, later⟩ := List.forall_mem_cons.1 kept
    have step (w : Int) (es : List (Int × String)) : c.settle register (e :: es) w =
        c.settle register es ((c.judge e.1 e.2).effect register w) := rfl
    cases chosen : keep e with
    | true => rw [List.filter_cons_of_pos chosen, step, step, ih later]
    | false =>
      have idle : (c.judge e.1 e.2).effect register word = word := by
        cases judged : c.judge e.1 e.2 with
        | pass => rfl
        | report _ => rfl
        | write f value =>
          rw [first f value judged] at chosen
          cases chosen
      rw [List.filter_cons_of_neg (by simp [chosen]), step, idle, ih later]

theorem testBit_settle_of_agree (entries : List (Int × String)) (word : Int) {x : Bool}
    (agree : ∀ e ∈ entries, ∀ f value, c.judge e.1 e.2 = .write f value →
      f.Holds register b → value.testBit (b - f.start) = x)
    (decided : ∃ e ∈ entries, ∃ f value,
      c.judge e.1 e.2 = .write f value ∧ f.Holds register b) :
    (c.settle register entries word).testBit b = x := by
  induction entries generalizing word with
  | nil =>
    obtain ⟨e, member, _⟩ := decided
    cases member
  | cons e rest ih =>
    obtain ⟨first, later⟩ := List.forall_mem_cons.1 agree
    by_cases again : ∃ e ∈ rest, ∃ f value,
        c.judge e.1 e.2 = .write f value ∧ f.Holds register b
    · exact ih _ later again
    · -- Nothing behind the first entry has the bit, so the first entry is the one that decides it.
      have free : ∀ e ∈ rest, ∀ f value,
          c.judge e.1 e.2 = .write f value → ¬ f.Holds register b :=
        fun e member f value judged holds => again ⟨e, member, f, value, judged, holds⟩
      obtain ⟨f, value, judged, holds⟩ :=
        ((List.exists_mem_cons_iff _ _ _).1 decided).resolve_right again
      rw [settle, List.foldl_cons, judged]
      refine (testBit_settle_of_free rest _ free).trans ?_
      rw [testBit_effect_of_holds (judge_eq_write_iff.1 judged).2.2 holds,
        first f value judged holds]

/-- A bit that only one field is written to has the bit of that field's value. -/
theorem testBit_settle_of_sole (sound : c.layout.Sound) {s : Snapshot} {e : Int × String}
    (member : e ∈ s.entries) {f : Field} {value : Nat} (judged : c.judge e.1 e.2 = .write f value)
    (holds : f.Holds register b) (sole : ∀ e' ∈ s.entries, ∀ g other,
      c.judge e'.1 e'.2 = .write g other → g.Holds register b → f = g) (word : Int) :
    (c.settle register s.entries word).testBit b = value.testBit (b - f.start) := by
  refine testBit_settle_of_agree s.entries word ?_ ⟨e, member, f, value, judged, holds⟩
  intro e' present g other judged' there
  -- The field has one index, and the index one label.
  have one := sole e' present g other judged' there
  have index : e.1 = e'.1 := by
    rw [← sound.index_of_get? (judge_eq_write_iff.1 judged).2.1,
      ← sound.index_of_get? (judge_eq_write_iff.1 judged').2.1, one]
  have label : s.get? e.1 = some e'.2 := index ▸ OrderedMap.get?_of_mem present
  rw [OrderedMap.get?_of_mem member, Option.some.injEq] at label
  rw [← index, ← label, judged, Verdict.write.injEq] at judged'
  rw [← judged'.1, ← judged'.2]

end Bits

/-- An entry of the snapshot that counts puts the value into the field, which has the bit of the
register. -/
def Decides (c : Compiler) (s : Snapshot) (register : Scalar) (b : Nat) (f : Field) (value : Nat) :
    Prop :=
  ∃ index label, (index, label) ∈ s.entries ∧ index ∉ c.informational ∧
    c.layout.get? index = some f ∧ f.encode? label = some value ∧ f.Holds register b

/-- Compiling gives a word of 32 bits to each declared register and to no other. A bit that an
entry decides is that bit of the entry's value; every other bit is the reset value's. In NaN several
entries may decide one bit. -/
theorem compile_bits (c : Compiler) (reachable : c.layout.Reachable) (declared : c.Declared)
    (s : Snapshot) :
    ∃ result, c.compile s = .ok result ∧
      result.image.words.keys = c.registers.keys ∧
      (∀ e ∈ result.image.words.entries, 0 ≤ e.2 ∧ e.2 < 0x100000000) ∧
      ∀ name register, c.registers.get? name = some register →
        ∃ word, result.image.words.get? name = some word ∧
          ∀ b < 32,
            (name.isNaN = false → ∀ f value, c.Decides s name b f value →
              word.testBit b = value.testBit (b - f.start)) ∧
            ((¬ ∃ f value, c.Decides s name b f value) →
              word.testBit b = register.reset.testBit b) := by
  obtain ⟨result, compiled⟩ := exists_compile declared s
  refine ⟨result, compiled, keys_of_compile declared compiled, range_compile declared compiled, ?_⟩
  intro name register found
  refine ⟨_, word_compile declared compiled found, fun b low => ?_⟩
  rw [Word.testBit_cut _ low]
  constructor
  · rintro named f value ⟨index, label, member, counted, mapped, known, holds⟩
    have unshared : c.layout.Unshared f :=
      reachable.sound.unshared (Layout.mem_of_get? mapped) (holds.isNaN_eq.trans named)
    refine testBit_settle_of_sole reachable.sound member
      (judge_eq_write_iff.2 ⟨counted, mapped, known⟩) holds ?_ register.reset
    exact fun _ _ g _ judged there =>
      unshared g (Layout.mem_of_get? (judge_eq_write_iff.1 judged).2.1) name b holds there
  · intro undecided
    refine testBit_settle_of_free s.entries register.reset ?_
    intro e member f value judged holds
    obtain ⟨counted, mapped, known⟩ := judge_eq_write_iff.1 judged
    exact undecided ⟨f, value, e.1, e.2, member, counted, mapped, known, holds⟩

/-! A register with a negative reset value and two neighbouring fields. -/

def mode : Field where
  index := 1
  register := .text "CFG"
  name := "MODE"
  start := 0
  width := 2
  values := OrderedMap.ofList [("slow", 1), ("fast", 2), ("turbo", 2)]
  pragmas := OrderedMap.empty
  width_pos := by decide
  start_add_width_le := by decide
  value_lt := by decide
  pragma_known := by decide

def lock : Field where
  index := 2
  register := .text "CFG"
  name := "LOCK"
  start := 2
  width := 3
  values := OrderedMap.ofList [("on", 4), ("off", 6)]
  pragmas := OrderedMap.empty
  width_pos := by decide
  start_add_width_le := by decide
  value_lt := by decide
  pragma_known := by decide

def twoFields : Compiler where
  layout := ⟨OrderedMap.ofList [(1, mode), (2, lock)]⟩
  registers :=
    OrderedMap.ofList [(.text "CFG", { name := .text "CFG", address := 0, reset := -5 })]
  informational := [3]

theorem reachable_twoFields : twoFields.layout.Reachable := by
  have first : Layout.empty.add mode = .ok ⟨OrderedMap.ofList [(1, mode)]⟩ := rfl
  have second : Layout.add ⟨OrderedMap.ofList [(1, mode)]⟩ lock = .ok twoFields.layout := rfl
  exact .add (.add .empty first) second

theorem named_twoFields : twoFields.layout.Named := by
  unfold Layout.Named
  decide

theorem declared_twoFields : twoFields.Declared := by
  unfold Declared
  decide

def threeChoices : Snapshot := OrderedMap.ofList [(2, "shut"), (3, "on"), (1, "turbo")]

theorem compile_bits_twoFields :
    ∃ result word, twoFields.compile threeChoices = .ok result ∧
      result.image.words.get? (.text "CFG") = some word ∧
      word.testBit 1 = true ∧ word.testBit 2 = Int.testBit (-5) 2 := by
  obtain ⟨result, compiled, _, _, bits⟩ :=
    compile_bits twoFields reachable_twoFields declared_twoFields threeChoices
  obtain ⟨word, found, decided⟩ := bits (.text "CFG") _ rfl
  refine ⟨result, word, compiled, found, ?_, ?_⟩
  · exact (decided 1 (by decide)).1 rfl mode 2
      ⟨1, "turbo", by decide, by decide, rfl, rfl, by decide, by decide⟩
  · apply (decided 2 (by decide)).2
    rintro ⟨f, value, index, label, member, counted, mapped, known, holds⟩
    have entries : threeChoices.entries = [(2, "shut"), (3, "on"), (1, "turbo")] := rfl
    rw [entries] at member
    simp only [List.mem_cons, Prod.mk.injEq, List.not_mem_nil, or_false] at member
    rcases member with ⟨rfl, rfl⟩ | ⟨rfl, rfl⟩ | ⟨rfl, rfl⟩
    · cases mapped
      cases known
    · exact counted (by decide)
    · cases mapped
      exact absurd holds.2.2 (by decide)

end Compiler
end ConfigWords
