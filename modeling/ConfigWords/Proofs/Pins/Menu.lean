import ConfigWords.Proofs.Pins.Resolving
import ConfigWords.Proofs.Pins.Tables
import Mathlib.Order.Bounds.Defs

/-! The menu of pins beside the routing.
The menu goes through all entries of a signal's group, each with its own package. The routing takes
the first entry of the pin and the package that the tables note first for it. Nothing stops tables
from placing a pin twice, and then the two may disagree. -/
namespace ConfigWords.PinTables

variable {t : PinTables} {signal pin : String} {package : Option Int}

/-- The entry places the pin in the signal's group, and the signal accepts its selector. -/
def Selectable (t : PinTables) (signal pin : String) (e : GroupPin) : Prop :=
  ∃ s g, t.input? signal = some s ∧ t.group? s.group = some g ∧ e ∈ g.pins ∧ e.pin = pin ∧
    e.selector ∈ s.selectors

def leading? (t : PinTables) (signal pin : String) : Option GroupPin :=
  (t.input? signal).bind fun s => (t.group? s.group).bind fun g => g.entry? pin

def own? (t : PinTables) (p : OutputPin) : Option GroupPin :=
  (t.group? p.group).bind fun g => g.entry? p.pin

theorem entry?_spec {g : PinGroup} {e : GroupPin} (found : g.entry? pin = some e) :
    e ∈ g.pins ∧ e.pin = pin :=
  ⟨List.mem_of_find?_eq_some found, by simpa using List.find?_some found⟩

theorem exists_entry? {g : PinGroup} {e : GroupPin} (member : e ∈ g.pins) :
    ∃ first, g.entry? e.pin = some first := by
  rw [← Option.isSome_iff_exists, PinGroup.entry?, List.find?_isSome]
  exact ⟨e, member, by simp⟩

theorem mem_pinsFor_iff (connected : pin ≠ noConnect) :
    pin ∈ t.pinsFor signal package ↔
      ∃ e, t.Selectable signal pin e ∧ Fits package e.minPins := by
  have fits (e : GroupPin) :
      (package.all fun size => e.minPins ≤ size) = true ↔ Fits package e.minPins := by
    cases package <;> simp [Fits]
  unfold pinsFor Selectable
  cases known : t.input? signal with
  | none => simp
  | some s =>
    cases grouped : t.group? s.group with
    | none => simp [grouped]
    | some g =>
      simp only [List.mem_map, List.mem_filter, Bool.and_eq_true, decide_eq_true_eq, bne_iff_ne,
        fits, grouped]
      constructor
      · rintro ⟨e, ⟨member, ⟨accepted, _⟩, large⟩, rfl⟩
        exact ⟨e, ⟨s, g, rfl, grouped, member, rfl, accepted⟩, large⟩
      · rintro ⟨e, ⟨s', g', same, found, member, rfl, accepted⟩, large⟩
        cases same
        cases Option.some.inj (grouped.symm.trans found)
        exact ⟨e, ⟨member, ⟨accepted, connected⟩, large⟩, rfl⟩

theorem route_input_iff :
    (t.route [⟨signal, pin, .input⟩] package).refused = [] ↔
      (∃ e, t.leading? signal pin = some e ∧ t.Selectable signal pin e) ∧
        Fits package (t.minPinCount pin) := by
  simp only [refused_single_eq_nil_iff, resolve, resolveInput_eq_ok_iff]
  constructor
  · rintro ⟨_, s, g, e, known, grouped, first, accepted, fits, _⟩
    obtain ⟨member, placed⟩ := entry?_spec first
    exact ⟨⟨e, by simp [leading?, known, grouped, first],
      s, g, known, grouped, member, placed, accepted⟩, fits⟩
  · rintro ⟨⟨e, first, s, g, known, grouped, _, _, accepted⟩, fits⟩
    simp only [leading?, known, grouped, Option.bind_some] at first
    exact ⟨_, s, g, e, known, grouped, first, accepted, fits, rfl⟩

theorem route_output_iff {p : OutputPin} (known : t.output? pin = some p) :
    (t.route [⟨signal, pin, .output⟩] package).refused = [] ↔
      signal ∈ p.outputs.map (·.signal) ∧ Fits package (t.minPinCount pin) := by
  have driven : (∃ o, p.output? signal = some o) ↔ signal ∈ p.outputs.map (·.signal) := by
    rw [← Option.isSome_iff_exists, OutputPin.output?]
    simp
  simp only [refused_single_eq_nil_iff, resolve, resolveOutput_eq_ok_iff, ← driven]
  constructor
  · rintro ⟨_, q, o, same, found, fits, _⟩
    cases Option.some.inj (known.symm.trans same)
    exact ⟨⟨o, found⟩, fits⟩
  · rintro ⟨⟨o, found⟩, fits⟩
    exact ⟨_, p, o, known, found, fits, rfl⟩

theorem forall_fits_iff {m n : Int} : (∀ package, Fits package m ↔ Fits package n) ↔ m = n := by
  constructor
  · intro alike
    have above : n ≤ m := (alike (some m)).1 (by simp [Fits]) m rfl
    have below : m ≤ n := (alike (some n)).2 (by simp [Fits]) n rfl
    exact Int.le_antisymm below above
  · rintro rfl package
    rfl

/-- If the signal can select the pin at all, then the first entry of the pin is one that it accepts,
and the package noted for the pin is the smallest among the entries that it accepts. -/
def Unambiguous (t : PinTables) (signal pin : String) : Prop :=
  (∃ e, t.Selectable signal pin e) →
    (∃ e, t.leading? signal pin = some e ∧ t.Selectable signal pin e) ∧
      IsLeast {n | ∃ e, t.Selectable signal pin e ∧ e.minPins = n} (t.minPinCount pin)

theorem listed_iff_routed_iff (connected : pin ≠ noConnect) :
    (∀ package, pin ∈ t.pinsFor signal package ↔
      (t.route [⟨signal, pin, .input⟩] package).refused = []) ↔ t.Unambiguous signal pin := by
  simp only [mem_pinsFor_iff connected, route_input_iff]
  constructor
  · rintro agree ⟨e, selectable⟩
    -- Each entry on the package of its own size, and the pin on the package that is noted for it.
    have leads := ((agree none).1 ⟨e, selectable, by simp [Fits]⟩).1
    have below : ∀ e, t.Selectable signal pin e → t.minPinCount pin ≤ e.minPins := by
      intro e selectable
      exact ((agree (some e.minPins)).1 ⟨e, selectable, by simp [Fits]⟩).2 _ rfl
    obtain ⟨least, accepted, small⟩ :=
      (agree (some (t.minPinCount pin))).2 ⟨leads, by simp [Fits]⟩
    have same := Int.le_antisymm (small _ rfl) (below least accepted)
    refine ⟨leads, ⟨least, accepted, same⟩, ?_⟩
    rintro _ ⟨e, selectable, rfl⟩
    exact below e selectable
  · intro clear package
    constructor
    · rintro ⟨e, selectable, fits⟩
      obtain ⟨leads, least⟩ := clear ⟨e, selectable⟩
      refine ⟨leads, fun size given => ?_⟩
      exact Int.le_trans (least.2 ⟨e, selectable, rfl⟩) (fits size given)
    · rintro ⟨⟨e, _, selectable⟩, fits⟩
      obtain ⟨_, ⟨least, accepted, same⟩, _⟩ := clear ⟨e, selectable⟩
      exact ⟨least, accepted, same ▸ fits⟩

/-- All entries of a pin are equal, wherever they stand. -/
def PinsOnce (t : PinTables) : Prop :=
  ∀ g ∈ t.groups.values, ∀ e ∈ g.pins, ∀ g' ∈ t.groups.values, ∀ e' ∈ g'.pins,
    e.pin ≠ noConnect → e.pin = e'.pin → e = e'

theorem mem_groups_of_group? {number : Int} {g : PinGroup} (found : t.group? number = some g) :
    g ∈ t.groups.values :=
  List.mem_map.2 ⟨_, OrderedMap.get?_eq_some_iff.1 found, rfl⟩

theorem PinsOnce.minPinCount_eq (once : t.PinsOnce) {g : PinGroup} {e : GroupPin}
    (grouped : g ∈ t.groups.values) (member : e ∈ g.pins) (connected : e.pin ≠ noConnect) :
    t.minPinCount e.pin = e.minPins := by
  unfold minPinCount
  cases noted : t.groups.values.findSome? fun g => g.entry? e.pin with
  | none =>
    obtain ⟨first, found⟩ := exists_entry? member
    have missing := List.findSome?_eq_none_iff.1 noted g grouped
    rw [found] at missing
    cases missing
  | some other =>
    obtain ⟨g', grouped', found⟩ := List.exists_of_findSome?_eq_some noted
    obtain ⟨member', placed⟩ := entry?_spec found
    rw [once g grouped e member g' grouped' other member' connected placed.symm]

theorem PinsOnce.unambiguous (once : t.PinsOnce) (connected : pin ≠ noConnect) :
    t.Unambiguous signal pin := by
  rintro ⟨e, s, g, known, grouped, member, rfl, accepted⟩
  have listed := mem_groups_of_group? grouped
  have noted := once.minPinCount_eq listed member connected
  have selectable : t.Selectable signal e.pin e :=
    ⟨s, g, known, grouped, member, rfl, accepted⟩
  obtain ⟨first, found⟩ := exists_entry? member
  obtain ⟨present, placed⟩ := entry?_spec found
  cases once g listed e member g listed first present connected placed.symm
  refine ⟨⟨e, by simp [leading?, known, grouped, found], selectable⟩,
    ⟨e, selectable, noted.symm⟩, ?_⟩
  rintro _ ⟨other, ⟨s', g', _, grouped', member', same, _⟩, rfl⟩
  have equal := once g listed e member g' (mem_groups_of_group? grouped') other member' connected
    same.symm
  exact Int.le_of_eq (noted.trans (congrArg GroupPin.minPins equal))

theorem PinsOnce.own_minPins (once : t.PinsOnce) {p : OutputPin} {own : GroupPin}
    (found : t.own? p = some own) (connected : p.pin ≠ noConnect) :
    own.minPins = t.minPinCount p.pin := by
  obtain ⟨g, grouped, first⟩ := Option.bind_eq_some_iff.1 found
  obtain ⟨member, placed⟩ := entry?_spec first
  rw [← placed] at connected ⊢
  exact (once.minPinCount_eq (mem_groups_of_group? grouped) member connected).symm

theorem Sound.exists_own? (sound : t.Sound) {p : OutputPin} (known : t.output? pin = some p) :
    p.pin = pin ∧ ∃ own, t.own? p = some own := by
  have present := OrderedMap.get?_eq_some_iff.1 known
  obtain ⟨g, grouped, placed⟩ := sound.output_group p (List.mem_map.2 ⟨_, present, rfl⟩)
  obtain ⟨e, member, same⟩ := List.mem_map.1 placed
  obtain ⟨own, first⟩ := exists_entry? member
  exact ⟨sound.output_keyed _ present, own, by simp [own?, grouped, ← same, first]⟩

/-- The menu lists a pin exactly where the routing takes it, on every package, if and only if the
signal reads the pin unambiguously. A signal is routed out on the packages that have the pin's own
entry, if and only if that entry has the package that is noted for the pin. Tables that place each
pin once meet both conditions. -/
theorem menu_agrees_iff {groups : List PinGroup} {inputs : List InputSignal}
    {outputs : List OutputPin} (built : build groups inputs outputs = .ok t) :
    (∀ signal pin, pin ≠ noConnect →
      ((∀ package, pin ∈ t.pinsFor signal package ↔
        (t.route [⟨signal, pin, .input⟩] package).refused = []) ↔ t.Unambiguous signal pin)) ∧
    (∀ pin p, t.output? pin = some p → ∃ own, t.own? p = some own ∧ ∀ signal,
      ((∀ package, (t.route [⟨signal, pin, .output⟩] package).refused = [] ↔
        signal ∈ ((t.outputsOf? pin).getD []).map (·.signal) ∧ Fits package own.minPins) ↔
          (signal ∈ p.outputs.map (·.signal) → own.minPins = t.minPinCount pin))) ∧
    (t.PinsOnce → ∀ pin, pin ≠ noConnect → (∀ signal, t.Unambiguous signal pin) ∧
      ∀ p own, t.output? pin = some p → t.own? p = some own →
        own.minPins = t.minPinCount pin) := by
  have sound := (build_eq_ok_iff.1 built).1
  refine ⟨fun signal pin connected => listed_iff_routed_iff connected, ?_, ?_⟩
  · intro pin p known
    obtain ⟨_, own, found⟩ := sound.exists_own? known
    refine ⟨own, found, fun signal => ?_⟩
    have listed : ((t.outputsOf? pin).getD []) = p.outputs := by simp [outputsOf?, known]
    simp only [route_output_iff known, listed, and_congr_right_iff]
    rw [forall_comm]
    refine forall_congr' fun _ => ?_
    rw [forall_fits_iff]
    exact eq_comm
  · intro once pin connected
    refine ⟨fun signal => once.unambiguous connected, ?_⟩
    intro p own known found
    obtain ⟨rfl, _⟩ := sound.exists_own? known
    exact once.own_minPins found connected

/-! Tables that place two pins twice: one in two entries of a group, one in two groups. -/

def repeatedGroup : PinGroup :=
  ⟨0, [⟨0, "RPA0", 144⟩, ⟨1, "RPA1", 64⟩, ⟨2, "RPA1", 100⟩]⟩

def repeatedGroups : List PinGroup := [repeatedGroup, ⟨1, [⟨0, "RPA0", 64⟩]⟩]

def wideInput : InputSignal :=
  { signal := "U1RX", register := "U1RXR", group := 0, selectors := [1, 2] }

def narrowInput : InputSignal :=
  { signal := "U2RX", register := "U2RXR", group := 0, selectors := [2] }

def plainOutput : OutputPin := ⟨"RPA1", "RPA1R", 0, [{ selector := 2, signal := "SDO1" }]⟩

def repeatedOutput : OutputPin := ⟨"RPA0", "RPA0R", 1, [{ selector := 1, signal := "U1TX" }]⟩

theorem menu_agrees_iff_repeated :
    ∃ t, build repeatedGroups [wideInput, narrowInput] [plainOutput, repeatedOutput] = .ok t ∧
      ("RPA1" ∈ t.pinsFor "U1RX" (some 64) ↔
        (t.route [⟨"U1RX", "RPA1", .input⟩] (some 64)).refused = []) ∧
      ((t.route [⟨"SDO1", "RPA1", .output⟩] (some 64)).refused = [] ↔
        "SDO1" ∈ ((t.outputsOf? "RPA1").getD []).map (·.signal) ∧ Fits (some 64) 64) := by
  obtain ⟨t, built, known, grouped, driven, placed, noted⟩ :
      ∃ t, build repeatedGroups [wideInput, narrowInput] [plainOutput, repeatedOutput] = .ok t ∧
        t.input? "U1RX" = some wideInput ∧ t.group? 0 = some repeatedGroup ∧
        t.output? "RPA1" = some plainOutput ∧ t.own? plainOutput = some ⟨1, "RPA1", 64⟩ ∧
        t.minPinCount "RPA1" = 64 :=
    ⟨_, rfl, rfl, rfl, rfl, rfl, rfl⟩
  obtain ⟨inputs, outputs, _⟩ := menu_agrees_iff built
  have first : t.Selectable "U1RX" "RPA1" ⟨1, "RPA1", 64⟩ :=
    ⟨wideInput, repeatedGroup, known, grouped, by decide, rfl, by decide⟩
  have clear : t.Unambiguous "U1RX" "RPA1" := by
    intro _
    have leads : t.leading? "U1RX" "RPA1" = some ⟨1, "RPA1", 64⟩ := by
      rw [leading?, known]
      exact congrArg (fun g => g.bind fun g => g.entry? "RPA1") grouped
    have least : ∀ e ∈ repeatedGroup.pins, e.pin = "RPA1" → 64 ≤ e.minPins := by decide
    refine ⟨⟨_, leads, first⟩, ⟨_, first, noted.symm⟩, ?_⟩
    rintro _ ⟨e, ⟨s, g, same, found, member, pin, _⟩, rfl⟩
    cases known.symm.trans same
    cases grouped.symm.trans found
    exact noted ▸ least e member pin
  obtain ⟨own, found, agree⟩ := outputs "RPA1" plainOutput driven
  cases placed.symm.trans found
  exact ⟨t, built, (inputs "U1RX" "RPA1" (by decide)).2 clear (some 64),
    (agree "SDO1").2 (fun _ => noted.symm) (some 64)⟩

/-- A pin that the menu lists is refused because its first entry has another selector, and an output
is refused on a package that has the pin because another group notes a larger one. -/
theorem listed_pin_refused :
    ∃ t p, build repeatedGroups [wideInput, narrowInput] [plainOutput, repeatedOutput] = .ok t ∧
      "RPA1" ∈ t.pinsFor "U2RX" none ∧
      (t.route [⟨"U2RX", "RPA1", .input⟩] none).refused =
        [⟨⟨"U2RX", "RPA1", .input⟩, .notInGroup 0⟩] ∧
      t.output? "RPA0" = some p ∧ t.own? p = some ⟨0, "RPA0", 64⟩ ∧
      "U1TX" ∈ p.outputs.map (·.signal) ∧
      (t.route [⟨"U1TX", "RPA0", .output⟩] (some 64)).refused =
        [⟨⟨"U1TX", "RPA0", .output⟩, .largerPackage 144⟩] :=
  ⟨_, _, rfl, .head _, rfl, rfl, rfl, .head _, rfl⟩

end ConfigWords.PinTables
