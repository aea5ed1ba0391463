import ConfigWords.Proofs.Description.Entries

/-! Whether a description keeps what its tree declares.
Keys that differ may be read alike: labels as one text, group numbers as one number. Informational
options and groups of pins are refused then. The options and the pragmas of a field, and the output
groups, are not: of two keys that are read alike the later one counts. -/
namespace ConfigWords.Description

def pinEntries (tree : Tree) (key : String) : Except DescriptionFault (List (Scalar × Tree)) := do
  (← (← tree.optional "pps" (.mapping [])).optional key (.mapping [])).entries

def NumbersApart (entries : List (Scalar × Tree)) : Prop :=
  (entries.map fun e => e.1.toInt).Nodup

def outputsUnder (e : Scalar × Tree) : Except DescriptionFault (List OutputValue) := do
  (← e.2.items).mapM readOutputValue

/-- The pin has every output that is listed under a key for its group. -/
def KeepsOutputs (entries : List (Scalar × Tree)) (p : OutputPin) : Prop :=
  ∀ e ∈ entries, e.1.toInt = .ok p.group → ∃ outputs, outputsUnder e = .ok outputs ∧
    outputs ⊆ p.outputs

def LastFor (entries : List (Scalar × Tree)) (number : Int) (e : Scalar × Tree) : Prop :=
  LastWith (fun e => e.1.toInt = .ok number) entries e

/-- An output stands under a key for the group, but not under the last one. -/
def LosesOutput (entries : List (Scalar × Tree)) (number : Int) : Prop :=
  ∃ e ∈ entries, e.1.toInt = .ok number ∧ ∃ outputs, outputsUnder e = .ok outputs ∧
    ∃ o ∈ outputs, ∀ last others, LastFor entries number last → outputsUnder last = .ok others →
      o ∉ others

theorem integer_scalar_eq_ok_iff {key : Scalar} {n : Int} :
    (Tree.scalar key).integer = .ok n ↔ key.toInt = .ok n :=
  mapError_eq_ok

theorem not_losesOutput_of_apart {entries : List (Scalar × Tree)} (apart : NumbersApart entries)
    (number : Int) : ¬ LosesOutput entries number := by
  rintro ⟨e, member, own, outputs, read, o, present, lost⟩
  obtain ⟨before, after, rfl⟩ := List.append_of_mem member
  have only : ∀ b ∈ after, ¬ b.1.toInt = .ok number := by
    intro b later same
    unfold NumbersApart at apart
    rw [List.map_append, List.map_cons] at apart
    have fresh := (List.nodup_cons.1 (List.Nodup.of_append_right apart)).1
    exact fresh (List.mem_map.2 ⟨b, later, same.trans own.symm⟩)
  exact lost e outputs ⟨before, after, rfl, own, only⟩ read present

theorem forall₂_of_readGroups {part : Tree} {groups : List PinGroup}
    (read : readGroups part = .ok groups) :
    ∃ entries, part.entries = .ok entries ∧
      List.Forall₂ (fun e (g : PinGroup) => e.1.toInt = .ok g.number) entries groups := by
  obtain ⟨entries, listed, each⟩ := bind_eq_ok.1 read
  refine ⟨entries, listed, (mapM_eq_ok_iff.1 each).imp ?_⟩
  intro e g made
  simp only [bind_eq_ok, pure_eq_ok, integer_scalar_eq_ok_iff] at made
  obtain ⟨n, number, _, _, _, _, rfl⟩ := made
  exact number

theorem forall₂_of_readOutputGroups {part : Tree} {offers : OrderedMap Int (List OutputValue)}
    (read : readOutputGroups part = .ok offers) :
    ∃ entries pairs, part.entries = .ok entries ∧ offers = OrderedMap.ofList pairs ∧
      List.Forall₂ (fun e pair => e.1.toInt = .ok pair.1 ∧ outputsUnder e = .ok pair.2)
        entries pairs := by
  simp only [readOutputGroups, bind_eq_ok, pure_eq_ok] at read
  obtain ⟨entries, listed, pairs, each, rfl⟩ := read
  refine ⟨entries, pairs, listed, rfl, (mapM_eq_ok_iff.1 each).imp ?_⟩
  intro e pair made
  simp only [bind_eq_ok, pure_eq_ok, integer_scalar_eq_ok_iff] at made
  obtain ⟨n, number, items, inside, outputs, each, rfl⟩ := made
  exact ⟨number, bind_eq_ok.2 ⟨items, inside, each⟩⟩

theorem group_of_readOutputPins {offers : OrderedMap Int (List OutputValue)} {key : Scalar}
    {part : Tree} {pins : List OutputPin} (read : readOutputPins offers key part = .ok pins) :
    ∀ p ∈ pins, offers.get? p.group = some p.outputs := by
  obtain ⟨n, _, made⟩ := bind_eq_ok.1 read
  split at made
  · cases made
  · rename_i outputs found
    obtain ⟨items, _, each⟩ := bind_eq_ok.1 made
    intro p member
    obtain ⟨item, _, one⟩ := exists_mem_of_mapM each member
    obtain ⟨name, _, same⟩ := bind_eq_ok.1 one
    cases pure_eq_ok.1 same
    exact found

theorem lists_of_readPins {part : Tree} {t : PinTables} (read : readPins part = .ok t) :
    (∃ value groups, part.optional "groups" (.mapping []) = .ok value ∧
      readGroups value = .ok groups ∧ t.groups.keys = groups.map (·.number)) ∧
    ∃ value offers, part.optional "output_groups" (.mapping []) = .ok value ∧
      readOutputGroups value = .ok offers ∧
      ∀ p ∈ t.outputs.values, offers.get? p.group = some p.outputs := by
  simp only [readPins, bind_eq_ok, mapError_eq_ok, PinTables.build_eq_ok_iff] at read
  obtain ⟨first, given, groups, made, _, _, _, _, inputs, _, second, placed, offers, offered, _, _,
    entries, _, outputs, each, _, grouped, _, listed⟩ := read
  refine ⟨⟨first, groups, given, made, ?_⟩, second, offers, placed, offered, ?_⟩
  · rw [OrderedMap.keys, grouped, List.map_map]
    rfl
  · have pins : t.outputs.values = outputs.flatten := by
      rw [OrderedMap.values, listed, List.map_map]
      exact List.map_id _
    intro p member
    obtain ⟨lines, own, inside⟩ := List.mem_flatten.1 (pins ▸ member)
    obtain ⟨e, _, made⟩ := exists_mem_of_mapM each own
    exact group_of_readOutputPins made p inside

section Outputs

variable {entries : List (Scalar × Tree)} {pairs : List (Int × List OutputValue)}
  (each : List.Forall₂ (fun e pair => e.1.toInt = .ok pair.1 ∧ outputsUnder e = .ok pair.2)
    entries pairs)

include each

theorem get?_outputs_iff {number : Int} {outputs : List OutputValue} :
    (OrderedMap.ofList pairs).get? number = some outputs ↔
      ∃ last, LastFor entries number last ∧ outputsUnder last = .ok outputs := by
  have unique : ∀ (e : Scalar × Tree) (pair other : Int × List OutputValue),
      e.1.toInt = .ok pair.1 ∧ outputsUnder e = .ok pair.2 →
      e.1.toInt = .ok other.1 ∧ outputsUnder e = .ok other.2 → pair = other := by
    rintro e pair other ⟨number, outputs⟩ ⟨again, same⟩
    exact Prod.ext (Except.ok.inj (number.symm.trans again)) (Except.ok.inj (outputs.symm.trans same))
  have named : ∀ (e : Scalar × Tree) (pair : Int × List OutputValue),
      e.1.toInt = .ok pair.1 ∧ outputsUnder e = .ok pair.2 →
      (e.1.toInt = .ok number ↔ pair.1 = number) := by
    rintro e pair ⟨own, _⟩
    rw [own, Except.ok.injEq]
  rw [OrderedMap.get?_ofList_iff_of_forall₂ each unique named]
  apply exists_congr
  intro last
  apply and_congr_right
  rintro ⟨_, _, _, own, _⟩
  exact and_iff_right own

theorem keepsOutputs_iff {p : OutputPin}
    (found : (OrderedMap.ofList pairs).get? p.group = some p.outputs) :
    KeepsOutputs entries p ↔ ¬ LosesOutput entries p.group := by
  constructor
  · rintro keeps ⟨e, member, number, outputs, read, o, present, lost⟩
    obtain ⟨_, again, inside⟩ := keeps e member number
    cases read.symm.trans again
    obtain ⟨last, final, own⟩ := (get?_outputs_iff each).1 found
    exact lost last p.outputs final own (inside present)
  · intro whole e member number
    obtain ⟨pair, _, _, read⟩ := exists_mem_of_forall₂ each member
    refine ⟨pair.2, read, ?_⟩
    intro o present
    by_contra absent
    apply whole
    refine ⟨e, member, number, pair.2, read, o, present, ?_⟩
    intro last others final own
    rw [(get?_outputs_iff each).2 ⟨last, final, own⟩] at found
    exact Option.some.inj found ▸ absent

end Outputs

section Loaded

variable {tree : Tree} {d : Description}

/-- In a description that is read, groups and informational options have kept their keys apart. The
options, the pragmas and the outputs are all kept as far as their keys are apart. -/
theorem kept_iff (read : ofTree tree = .ok d) :
    ∃ items groups offers, settingItems tree = .ok items ∧
      pinEntries tree "groups" = .ok groups ∧ pinEntries tree "output_groups" = .ok offers ∧
      (List.Forall₂ (KeepsOptions d) items d.schema.toList ↔ ∀ entry ∈ items, OptionsApart entry) ∧
      (List.Forall₂ (KeepsPragmas d) items d.schema.toList ↔ ∀ entry ∈ items, PragmasApart entry) ∧
      (∀ p ∈ d.pins.outputs.values, KeepsOutputs offers p ↔ ¬ LosesOutput offers p.group) ∧
      (NumbersApart offers → ∀ p ∈ d.pins.outputs.values, KeepsOutputs offers p) ∧
      List.Forall₂ (KeepsListed d) items d.schema.toList ∧
      NumbersApart groups ∧ d.pins.groups.keys.length = groups.length := by
  obtain ⟨items, listed, becomes⟩ := becomes_of_ofTree read
  obtain ⟨_, _, _, part, given, routed⟩ := parts_of_ofTree read
  obtain ⟨⟨first, groups, placed, made, keys⟩, second, offers, beside, offered, pins⟩ :=
    lists_of_readPins routed
  obtain ⟨groupEntries, inFirst, numbered⟩ := forall₂_of_readGroups made
  obtain ⟨offerEntries, pairs, inSecond, rfl, each⟩ := forall₂_of_readOutputGroups offered
  have outputs : ∀ p ∈ d.pins.outputs.values,
      KeepsOutputs offerEntries p ↔ ¬ LosesOutput offerEntries p.group :=
    fun p member => keepsOutputs_iff each (pins p member)
  have numbers : NumbersApart groupEntries := by
    rw [NumbersApart, nodup_map_iff_of_forall₂ numbered fun _ _ => id, ← keys]
    exact d.pins.groups.nodup_keys
  refine ⟨items, groupEntries, offerEntries, listed, ?_, ?_, ?_, ?_, outputs, ?_, ?_, numbers, ?_⟩
  · simp only [pinEntries, given, ok_bind, placed, inFirst]
  · simp only [pinEntries, given, ok_bind, beside, inSecond]
  · exact forall₂_iff_of_forall₂ becomes fun _ _ one => one.keepsOptions_iff
  · exact forall₂_iff_of_forall₂ becomes fun _ _ one => one.keepsPragmas_iff
  · exact fun apart p member => (outputs p member).2 (not_losesOutput_of_apart apart p.group)
  · exact becomes.imp fun _ _ one => one.keepsListed
  · rw [keys, List.length_map, numbered.length_eq]

end Loaded

theorem kept_iff_clock :
    ∃ d items offers, ofTree clockTree = .ok d ∧ settingItems clockTree = .ok items ∧
      pinEntries clockTree "output_groups" = .ok offers ∧
      List.Forall₂ (KeepsPragmas d) items d.schema.toList ∧
      ∀ p ∈ d.pins.outputs.values, KeepsOutputs offers p := by
  obtain ⟨d, read⟩ : ∃ d, ofTree clockTree = .ok d := ⟨_, rfl⟩
  obtain ⟨items, groups, offers, listed, _, beside, _, pragmas, _, outputs, _⟩ := kept_iff read
  refine ⟨d, items, offers, read, listed, beside, pragmas.2 ?_, outputs ?_⟩
  · cases listed
    rw [List.forall_mem_cons, List.forall_mem_singleton]
    constructor
    · rintro _ _ ⟨⟩
      decide
    · rintro _ _ ⟨⟩
      decide
  · cases beside
    unfold NumbersApart
    decide

/-! The keys 1 and "1" under the options and the pragmas, and 0 and "0" under the output groups. -/

open Sheet in
def alikeTree : Tree :=
  record [
    ("family", .text "CLOCK"),
    ("registers", record [("CFG", registerTree 0x1FC0FFC8)]),
    ("settings", .list [
      record [("index", .int 9), ("name", .text "PLL Multiplier"), ("default", .text "1"),
        ("field", record [("register", .text "CFG"), ("name", .text "FPLLMULT"),
          ("bit_start", .int 4), ("bit_width", .int 2)]),
        ("options", .mapping [(.int 1, .int 0), (.text "1", .int 3)]),
        ("pragmas", .mapping [(.int 1, .text "MUL_1"), (.text "1", .text "MUL_4")])]]),
    ("pps", record [
      ("groups", numbered [(0, .list [groupPinTree ⟨0, "RPD2", 64⟩])]),
      ("output_groups", .mapping [
        (.int 0, .list [record [("selector", .int 1), ("signal", .text "U1TX")]]),
        (.text "0", .list [record [("selector", .int 2), ("signal", .text "U2TX")]])]),
      ("outputs", numbered [(0, .list [.text "RPD2"])])])]

theorem alikeTree_loses :
    ∃ d items offers, ofTree alikeTree = .ok d ∧ settingItems alikeTree = .ok items ∧
      pinEntries alikeTree "output_groups" = .ok offers ∧
      ¬ List.Forall₂ (KeepsOptions d) items d.schema.toList ∧
      ¬ List.Forall₂ (KeepsPragmas d) items d.schema.toList ∧
      ∃ p ∈ d.pins.outputs.values, ¬ KeepsOutputs offers p := by
  refine ⟨_, _, _, rfl, rfl, rfl, ?_, ?_, _, .head _, ?_⟩
  · rintro (_ | ⟨keeps, _⟩)
    obtain ⟨_, listed, count, _⟩ := keeps _ rfl
    cases listed
    cases count
  · rintro (_ | ⟨keeps, _⟩)
    obtain ⟨_, listed, count, _⟩ := keeps _ rfl
    cases listed
    cases count
  · intro keeps
    obtain ⟨outputs, read, inside⟩ := keeps _ (.head _) rfl
    cases read
    exact absurd (inside (.head _)) (by decide)

end ConfigWords.Description
