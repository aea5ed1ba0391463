import ConfigWords.Proofs.Description.Reading
import ConfigWords.Proofs.Efh
import ConfigWords.Proofs.Render.FirstWrites

/-! What the set-up function writes.
Names that can stand in C and texts of one line make every line of the function what it is meant to
be. Between the lines that unlock and lock the registers, the two dialects then write the same: the
selectors of the routing and nothing else. -/
namespace ConfigWords

open Text

namespace Render

/-! Every line is one line. -/

theorem oneLine_of_isIdentifier {name : String} (named : isIdentifier name.toList = true) :
    OneLine name :=
  fun member => absurd (isNamePart_of_isIdentifier named member) (by decide)

theorem oneLine_hexInt {n : Int} (positive : 0 ≤ n) : OneLine (hexInt n) := by
  rw [OneLine, hexInt, if_neg (Int.not_lt.2 positive), String.toList_ofList]
  intro member
  simp only [List.mem_cons, Char.reduceEq, false_or] at member
  exact absurd (isHexDigit_of_mem_hex member) (by decide)

theorem oneLine_writeLine (dialect : Dialect) {x : Resolved} {remark : String}
    (named : isIdentifier x.register.toList = true) (positive : 0 ≤ x.selector)
    (each : OneLine remark) : OneLine (writeLine dialect.form x remark) := by
  have ending : OneLine dialect.form.suffix := by cases dialect <;> decide
  have fixed : OneLine setupIndent ∧ OneLine " = " ∧ OneLine "; " := by decide
  simp only [writeLine, oneLine_append, fixed, oneLine_of_isIdentifier named,
    oneLine_hexInt positive, ending, each, and_self]

theorem oneLine_orElse {text other : String} (first : OneLine text) (second : OneLine other) :
    OneLine (orElse text other) := by
  unfold orElse
  split
  · exact second
  · exact first

theorem oneLine_blockComment {text : String} (whole : OneLine text) :
    OneLine (blockComment text) := by
  have fixed : OneLine "/* " ∧ OneLine " */" := by decide
  simp only [blockComment, oneLine_append, fixed, whole, and_self]

theorem oneLine_lineComment {text : String} (whole : OneLine text) : OneLine (lineComment text) := by
  have fixed : OneLine "// " := by decide
  simp only [lineComment, oneLine_append, fixed, whole, and_self]

def linesAhead (form : SetupForm) : List String :=
  form.opening ++ [setupIndent ++ form.comment form.unlockNote] ++ unlockKeys.map (keyLine form)

def linesInside (form : SetupForm) (r : Routing) (t : PinTables) : List String :=
  "" :: writeBlock form form.inputsNote (form.inputRemark t) (winners r.inputs) ++
    writeBlock form form.outputsNote (form.outputRemark t) (winners r.outputs) ++
    [setupIndent ++ form.comment form.lockNote]

theorem setupLines_eq (form : SetupForm) (r : Routing) (t : PinTables) :
    setupLines form r t = linesAhead form ++ lockBitLine "0" ::
      (linesInside form r t ++ lockBitLine "1" :: [keyLine form lockKey, "\x7d"]) := by
  simp [setupLines, linesAhead, linesInside]

theorem mem_linesInside {dialect : Dialect} {r : Routing} {t : PinTables} {line : String}
    (member : line ∈ linesInside dialect.form r t) :
    line ∈ "" :: [dialect.form.inputsNote, dialect.form.outputsNote, dialect.form.lockNote].map
        (fun note => setupIndent ++ dialect.form.comment note) ∨
      (∃ x ∈ r.inputs, line = writeLine dialect.form x (dialect.form.inputRemark t x.assignment)) ∨
      ∃ x ∈ r.outputs, line = writeLine dialect.form x (dialect.form.outputRemark t x.assignment) := by
  simp only [linesInside, List.cons_append, List.mem_cons, List.mem_append, List.not_mem_nil,
    or_false] at member
  rcases member with rfl | (input | output) | rfl
  · simp
  · rcases mem_writeBlock input with rfl | rfl | ⟨x, first, rfl⟩
    · simp
    · simp
    · exact .inr (.inl ⟨x, mem_of_mem_winners first, rfl⟩)
  · rcases mem_writeBlock output with rfl | rfl | ⟨x, first, rfl⟩
    · simp
    · simp
    · exact .inr (.inr ⟨x, mem_of_mem_winners first, rfl⟩)
  · simp

/-- The writes of a routing can be read back, and the remarks behind them do not end their lines. -/
structure Legible (r : Routing) (t : PinTables) : Prop where
  inputs : Writable r.inputs
  outputs : Writable r.outputs
  input_remarks : ∀ dialect : Dialect, ∀ x ∈ r.inputs,
    OneLine (dialect.form.inputRemark t x.assignment)
  output_remarks : ∀ dialect : Dialect, ∀ x ∈ r.outputs,
    OneLine (dialect.form.outputRemark t x.assignment)

section Legible

variable {r : Routing} {t : PinTables} (legible : Legible r t) (dialect : Dialect)

include legible

theorem Legible.oneLine : ∀ line ∈ setupLines dialect.form r t, OneLine line := by
  have around : ∀ line ∈ linesAhead dialect.form ++
      [lockBitLine "0", lockBitLine "1", keyLine dialect.form lockKey, "\x7d"], OneLine line := by
    cases dialect <;> decide
  have notes : ∀ line ∈ "" :: [dialect.form.inputsNote, dialect.form.outputsNote,
      dialect.form.lockNote].map (fun note => setupIndent ++ dialect.form.comment note),
      OneLine line := by
    cases dialect <;> decide
  have inside : ∀ line ∈ linesInside dialect.form r t, OneLine line := by
    intro line member
    rcases mem_linesInside member with note | ⟨x, input, rfl⟩ | ⟨x, output, rfl⟩
    · exact notes line note
    · obtain ⟨named, positive⟩ := legible.inputs x input
      exact oneLine_writeLine dialect named positive (legible.input_remarks dialect x input)
    · obtain ⟨named, positive⟩ := legible.outputs x output
      exact oneLine_writeLine dialect named positive (legible.output_remarks dialect x output)
  intro line member
  simp only [setupLines_eq, List.mem_append, List.mem_cons] at member around
  rcases member with ahead | opening | within | behind
  · exact around line (.inl ahead)
  · exact around line (.inr (.inl opening))
  · exact inside line within
  · exact around line (.inr (.inr behind))

theorem Legible.closing_not_mem : lockBitLine "1" ∉ linesInside dialect.form r t := by
  have unread : readWrite? (lockBitLine "1") = none := by decide
  intro member
  rcases mem_linesInside member with note | ⟨x, input, same⟩ | ⟨x, output, same⟩
  · revert note
    cases dialect <;> decide
  · obtain ⟨named, positive⟩ := legible.inputs x input
    rw [same, readWrite?_writeLine dialect _ named positive] at unread
    cases unread
  · obtain ⟨named, positive⟩ := legible.outputs x output
    rw [same, readWrite?_writeLine dialect _ named positive] at unread
    cases unread

theorem Legible.filterMap_linesInside :
    (linesInside dialect.form r t).filterMap readWrite? =
      (winners r.inputs ++ winners r.outputs).map writeOf := by
  have unread : ∀ note ∈ [dialect.form.inputsNote, dialect.form.outputsNote,
      dialect.form.lockNote], readWrite? (setupIndent ++ dialect.form.comment note) = none := by
    cases dialect <;> decide
  have gap : readWrite? "" = none := by decide
  have inputs : (writeBlock dialect.form dialect.form.inputsNote (dialect.form.inputRemark t)
      (winners r.inputs)).filterMap readWrite? = (winners r.inputs).map writeOf :=
    filterMap_writeBlock (fun x first => legible.inputs x (mem_of_mem_winners first))
      (unread _ (by simp))
  have outputs : (writeBlock dialect.form dialect.form.outputsNote (dialect.form.outputRemark t)
      (winners r.outputs)).filterMap readWrite? = (winners r.outputs).map writeOf :=
    filterMap_writeBlock (fun x first => legible.outputs x (mem_of_mem_winners first))
      (unread _ (by simp))
  rw [linesInside, List.cons_append, List.cons_append, List.filterMap_cons_none gap,
    List.filterMap_append, List.filterMap_append, inputs, outputs,
    List.filterMap_cons_none (unread _ (by simp)), List.filterMap_nil, List.append_nil,
    List.map_append]

theorem Legible.writesOf_setupLines :
    writesOf (joinLines (setupLines dialect.form r t)) =
      (winners r.inputs ++ winners r.outputs).map writeOf := by
  have opening : lockBitLine "0" ∉ linesAhead dialect.form := by cases dialect <;> decide
  have present : setupLines dialect.form r t ≠ [] := by simp [setupLines_eq]
  have between : linesBetween (lockBitLine "0") (lockBitLine "1")
      (setupLines dialect.form r t ++ [""]) = linesInside dialect.form r t := by
    rw [setupLines_eq, List.append_assoc, List.cons_append, List.append_assoc]
    exact linesBetween_eq opening (legible.closing_not_mem dialect)
  rw [writesOf, linesOf_joinLines present (legible.oneLine dialect), ← legible.filterMap_linesInside,
    ← between]
  rfl

end Legible

theorem writesOf_noSetup : writesOf noSetup = [] := by decide

theorem setupText_eq_ok {style : String} (known : lowercase style ∈ ["harmony", "mikroc"])
    (r : Routing) (t : PinTables) :
    ∃ dialect, setupText style r t = .ok (pinSetup dialect r t) := by
  simp only [List.mem_cons, List.not_mem_nil, or_false] at known
  rcases known with name | name
  · exact ⟨.harmony, by simp [setupText, Dialect.ofName, name, Except.map]⟩
  · exact ⟨.mikroc, by simp [setupText, Dialect.ofName, name, Except.map]⟩

/-- What a set-up text says of a routing: it stands in for the function where there is nothing to
write, and otherwise writes every selector once, the inputs first. -/
structure SetsUp (r : Routing) (t : PinTables) (text : String) : Prop where
  placeholder : text = noSetup ↔ r.selectors.entries = []
  writes : writesOf text = t.inputsFirst r.selectors
  complete : (writesOf text).Perm r.selectors.entries
  once : ((writesOf text).map (·.1)).Nodup

end Render

namespace PinTables

open Render

/-- Selectors that are not negative, registers with names that can stand in C, input signals and
output pins with registers of their own, and names and descriptions of one line. -/
structure Printable (t : PinTables) : Prop where
  pins : ∀ g ∈ t.groups.values, ∀ e ∈ g.pins, 0 ≤ e.selector ∧ OneLine e.pin
  inputs : ∀ s ∈ t.inputs.values,
    isIdentifier s.register.toList = true ∧ OneLine s.signal ∧ OneLine s.description
  outputs : ∀ p ∈ t.outputs.values, isIdentifier p.register.toList = true ∧ OneLine p.pin
  values : ∀ p ∈ t.outputs.values, ∀ o ∈ p.outputs,
    0 ≤ o.selector ∧ OneLine o.signal ∧ OneLine o.description
  apart : t.Apart

instance (t : PinTables) : Decidable t.Apart :=
  inferInstanceAs (Decidable (∀ register ∈ t.inputRegisters, register ∉ t.outputRegisters))

instance (t : PinTables) : Decidable t.Printable :=
  decidable_of_iff
    ((∀ g ∈ t.groups.values, ∀ e ∈ g.pins, 0 ≤ e.selector ∧ OneLine e.pin) ∧
      (∀ s ∈ t.inputs.values,
        isIdentifier s.register.toList = true ∧ OneLine s.signal ∧ OneLine s.description) ∧
      (∀ p ∈ t.outputs.values, isIdentifier p.register.toList = true ∧ OneLine p.pin) ∧
      (∀ p ∈ t.outputs.values, ∀ o ∈ p.outputs,
        0 ≤ o.selector ∧ OneLine o.signal ∧ OneLine o.description) ∧ t.Apart)
    ⟨fun ⟨pins, inputs, outputs, values, apart⟩ => ⟨pins, inputs, outputs, values, apart⟩,
      fun ⟨pins, inputs, outputs, values, apart⟩ => ⟨pins, inputs, outputs, values, apart⟩⟩

section Printable

variable {t : PinTables} (printable : t.Printable) (sound : t.Sound) {x : Resolved}

include printable sound

theorem Printable.input (reads : t.ReadsBack x) (direction : x.assignment.direction = .input) :
    (isIdentifier x.register.toList = true ∧ 0 ≤ x.selector) ∧
      ∀ dialect : Dialect, OneLine (dialect.form.inputRemark t x.assignment) := by
  cases reads with
  | output drives => cases direction.symm.trans drives
  | @input s g e _ known register _ grouped only pin =>
    have present := OrderedMap.get?_eq_some_iff.1 known
    have listed : e ∈ g.pins.filter fun e => e.selector == x.selector := only ▸ List.mem_cons_self
    obtain ⟨placed, selector⟩ := List.mem_filter.1 listed
    obtain ⟨named, signal, description⟩ := printable.inputs s (List.mem_map_of_mem present)
    obtain ⟨positive, spelled⟩ := printable.pins g
      (List.mem_map_of_mem (OrderedMap.get?_eq_some_iff.1 grouped)) e placed
    have keyed : s.signal = x.assignment.signal := sound.input_keyed _ present
    rw [eq_of_beq selector] at positive
    rw [pin] at spelled
    rw [keyed] at signal
    refine ⟨⟨register ▸ named, positive⟩, fun dialect => ?_⟩
    have told : OneLine (inputDescription t x.assignment) := by
      rw [inputDescription, known]
      exact oneLine_orElse description signal
    cases dialect with
    | harmony => exact oneLine_blockComment (oneLine_equation told spelled)
    | mikroc => exact oneLine_lineComment spelled

theorem Printable.output (reads : t.ReadsBack x) (direction : x.assignment.direction = .output) :
    (isIdentifier x.register.toList = true ∧ 0 ≤ x.selector) ∧
      ∀ dialect : Dialect, OneLine (dialect.form.outputRemark t x.assignment) := by
  cases reads with
  | input reads => cases direction.symm.trans reads
  | @output p o _ known register only signal =>
    have present := OrderedMap.get?_eq_some_iff.1 known
    have member : p ∈ t.outputs.values := List.mem_map_of_mem present
    have listed : o ∈ p.outputs.filter fun o => o.selector == x.selector :=
      only ▸ List.mem_cons_self
    obtain ⟨offered, selector⟩ := List.mem_filter.1 listed
    obtain ⟨named, pin⟩ := printable.outputs p member
    obtain ⟨positive, spelled, _⟩ := printable.values p member o offered
    have keyed : p.pin = x.assignment.pin := sound.output_keyed _ present
    rw [eq_of_beq selector] at positive
    rw [signal] at spelled
    rw [keyed] at pin
    refine ⟨⟨register ▸ named, positive⟩, fun dialect => ?_⟩
    have told : OneLine (outputDescription t x.assignment) := by
      rw [outputDescription, known, Option.bind_some]
      -- The remark names the first value of the signal, whatever its selector.
      cases found : p.output? x.assignment.signal with
      | none => exact pin
      | some first =>
        exact oneLine_orElse
          (printable.values p member first (List.mem_of_find?_eq_some found)).2.2 pin
    cases dialect with
    | harmony => exact oneLine_blockComment (oneLine_equation spelled told)
    | mikroc => exact oneLine_lineComment spelled

theorem Printable.legible (assignments : List Assignment) (package : Option Int) :
    Legible (t.route assignments package) t := by
  have input {x : Resolved} (member : x ∈ (t.route assignments package).inputs) := by
    obtain ⟨resolved, direction⟩ := mem_inputs_iff.1 member
    exact printable.input sound (sound.readsBack_of_route resolved).2 direction
  have output {x : Resolved} (member : x ∈ (t.route assignments package).outputs) := by
    obtain ⟨resolved, direction⟩ := mem_outputs_iff.1 member
    exact printable.output sound (sound.readsBack_of_route resolved).2 direction
  exact {
    inputs := fun _ member => (input member).1
    outputs := fun _ member => (output member).1
    input_remarks := fun dialect _ member => (input member).2 dialect
    output_remarks := fun dialect _ member => (output member).2 dialect }

theorem Printable.writesOf_pinSetup (dialect : Dialect) (assignments : List Assignment)
    (package : Option Int) :
    writesOf (pinSetup dialect (t.route assignments package) t) =
      t.inputsFirst (t.route assignments package).selectors := by
  unfold pinSetup
  split
  · rename_i idle
    rw [inputsFirst, List.isEmpty_iff.1 idle]
    exact writesOf_noSetup
  · rw [(printable.legible sound assignments package).writesOf_setupLines dialect,
      printable.apart.map_winners sound]

theorem Printable.setsUp (dialect : Dialect) (assignments : List Assignment)
    (package : Option Int) :
    SetsUp (t.route assignments package) t (pinSetup dialect (t.route assignments package) t) := by
  have writes := printable.writesOf_pinSetup sound dialect assignments package
  have complete : (t.inputsFirst (t.route assignments package).selectors).Perm
      (t.route assignments package).selectors.entries := printable.apart.perm_inputsFirst sound
  refine ⟨⟨fun idle => ?_, fun idle => ?_⟩, writes, writes ▸ complete, ?_⟩
  · rw [idle, writesOf_noSetup] at writes
    rw [← writes] at complete
    exact complete.symm.eq_nil
  · rw [pinSetup, idle]
    rfl
  · rw [writes]
    exact (complete.map _).nodup_iff.2 (OrderedMap.nodup_keys _)

end Printable

/-- The family's own tables are accepted, they are printable, and they have short numbers only. -/
theorem printable_description : ∃ d groups inputs outputs, Efh.description = .ok d ∧
    build groups inputs outputs = .ok d.pins ∧ d.pins.Printable ∧ d.pins.Speakable := by
  have evaluated : (match Description.readPins Efh.sheet.pinsTree with
      | .ok t => decide (t.Printable ∧ (∀ s ∈ t.inputs.values, Numeral.writable s.group = true) ∧
          (∀ p ∈ t.outputs.values, Numeral.writable p.group = true) ∧
          ∀ g ∈ t.groups.values, ∀ e ∈ g.pins, Numeral.writable e.minPins = true)
      | .error _ => false) = true := by decide +kernel
  obtain ⟨d, read, _⟩ := Efh.exists_description
  obtain ⟨_, _, _, part, found, routed⟩ := Description.parts_of_ofTree read
  have own : Efh.sheet.toTree.optional "pps" (.mapping []) = .ok Efh.sheet.pinsTree := rfl
  rw [own] at found
  cases found
  obtain ⟨groups, inputs, outputs, built⟩ := Description.exists_build_of_readPins routed
  rw [routed] at evaluated
  obtain ⟨printable, short_inputs, short_outputs, short_pins⟩ := of_decide_eq_true evaluated
  exact ⟨d, groups, inputs, outputs, read, built, printable,
    speakable_of_short short_inputs short_outputs short_pins⟩

/-- The set-up function of printable tables writes the selectors of every routing, each once and the
inputs first, in both dialects alike; the routing comes back unless a refusal names too long a
number. The family's own tables are such tables, and with them every routing comes back. -/
theorem setsUp_setupText :
    (∀ groups inputs outputs t, build groups inputs outputs = .ok t → t.Printable →
      ∀ assignments package,
        (∀ r, (t.route assignments package).written = .ok r ↔
          r = t.route assignments package ∧ t.Told package assignments) ∧
        ∀ style, lowercase style ∈ ["harmony", "mikroc"] →
          ∃ text, setupText style (t.route assignments package) t = .ok text ∧
            SetsUp (t.route assignments package) t text) ∧
    ∃ d groups inputs outputs, Efh.description = .ok d ∧
      build groups inputs outputs = .ok d.pins ∧ d.pins.Printable ∧
      ∀ assignments package,
        (d.pins.route assignments package).written = .ok (d.pins.route assignments package) := by
  constructor
  · intro groups inputs outputs t built printable assignments package
    refine ⟨fun _ => written_route_eq_ok_iff, fun style known => ?_⟩
    obtain ⟨dialect, written⟩ := setupText_eq_ok known (t.route assignments package) t
    exact ⟨_, written,
      printable.setsUp (build_eq_ok_iff.1 built).1 dialect assignments package⟩
  · obtain ⟨d, groups, inputs, outputs, read, built, printable, speakable⟩ := printable_description
    exact ⟨d, groups, inputs, outputs, read, built, printable,
      written_route_forall_iff.2 speakable⟩

theorem setsUp_setupText_echoed :
    ∃ t, build [echoGroup] [echoInput] [echoOutput] = .ok t ∧ t.Printable ∧
      (t.route echoed.reverse none).selectors.entries = [("RPA0R", 1), ("U1RXR", 1)] ∧
      ∃ harmony mikroc, setupText "harmony" (t.route echoed.reverse none) t = .ok harmony ∧
        setupText "MikroC" (t.route echoed.reverse none) t = .ok mikroc ∧
        writesOf harmony = [("U1RXR", 1), ("RPA0R", 1)] ∧
        writesOf mikroc = [("U1RXR", 1), ("RPA0R", 1)] := by
  obtain ⟨t, built, printable, entries, ordered⟩ :
      ∃ t, build [echoGroup] [echoInput] [echoOutput] = .ok t ∧ t.Printable ∧
        (t.route echoed.reverse none).selectors.entries = [("RPA0R", 1), ("U1RXR", 1)] ∧
        t.inputsFirst (t.route echoed.reverse none).selectors =
          [("U1RXR", 1), ("RPA0R", 1)] :=
    ⟨_, rfl, by decide, rfl, rfl⟩
  have written {style : String} (known : lowercase style ∈ ["harmony", "mikroc"]) :=
    (setsUp_setupText.1 _ _ _ t built printable echoed.reverse none).2 style known
  obtain ⟨harmony, first, setsUp⟩ := written (by decide +kernel : lowercase "harmony" ∈ _)
  obtain ⟨mikroc, second, also⟩ := written (by decide +kernel : lowercase "MikroC" ∈ _)
  exact ⟨t, built, printable, entries, harmony, mikroc, first, second,
    setsUp.writes.trans ordered, also.writes.trans ordered⟩

end PinTables
end ConfigWords
