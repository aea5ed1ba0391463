import ConfigWords.Proofs.ChoiceOrder
import ConfigWords.Proofs.Pins.Refusals
import ConfigWords.Render.PinSetup

/-! What a description that has been read can be asked for.
Every register that a field names is declared and every group that a signal names is there, so no
later lookup fails. What remains is the digit limit: a name or a number that is too long to be
written out stops the text that shows it. -/
namespace ConfigWords

namespace Render

theorem truth_of_not_writable {name : Scalar} (long : name.writable = false) :
    name.truth = true := by
  cases name with
  | int n =>
    have short : Numeral.writable 0 = true := by decide +kernel
    rw [Scalar.truth, bne_iff_ne]
    rintro rfl
    exact Bool.false_ne_true (long.symm.trans short)
  | _ => cases long

theorem writtenPragmas_eq (s : Snapshot) (image : Image) (layout : Layout) (device : Scalar) :
    writtenPragmas s image layout device =
      ifLegible (device :: image.words.keys) (pragmas s image layout device) := by
  have covers : ∀ name ∈ image.words.keys, image.words.contains name = true :=
    fun _ => OrderedMap.contains_of_mem_keys
  have names := checkNames_bind covers (pragmas s image layout device)
  unfold writtenPragmas
  cases written : device.writable with
  | true => simpa [ifLegible, written] using names
  | false =>
    have named := truth_of_not_writable written
    simp [ifLegible, written, named, throw, throwThe, MonadExceptOf.throw, bind, Except.bind]

theorem exists_setupText {style : String} (known : Text.lowercase style ∈ ["harmony", "mikroc"])
    (r : Routing) (t : PinTables) : ∃ text, setupText style r t = .ok text := by
  have named : ∃ dialect, Dialect.ofName style = .ok dialect := by
    unfold Dialect.ofName
    rcases List.mem_pair.1 known with lowered | lowered
    · exact ⟨.harmony, by simp [lowered]⟩
    · exact ⟨.mikroc, by simp [lowered]⟩
  obtain ⟨dialect, named⟩ := named
  exact ⟨pinSetup dialect r t, by rw [setupText, named]; rfl⟩

end Render

theorem PinTables.Sound.listPins_eq {t : PinTables} (sound : t.Sound) (signal : String)
    (package : Option Int) : t.listPins signal package = .ok (t.pinsFor signal package) := by
  unfold listPins
  cases known : t.input? signal with
  | none => simp [pinsFor, known]
  | some s =>
    have present : s ∈ t.inputs.values :=
      List.mem_map.2 ⟨_, OrderedMap.get?_eq_some_iff.1 known, rfl⟩
    obtain ⟨g, grouped, _⟩ := sound.input_group s present
    simp only [groupOf, grouped]
    rfl

namespace Description

open Render

variable {tree : Tree} {d : Description}

/-- Whatever is asked of a description that has been read, no lookup misses its key. The texts of an
image are written where the names in them are short enough, a batch of assignments is answered where
its refusals are, and all batches are where the tables are speakable. -/
theorem lookups_of_ofTree (read : ofTree tree = .ok d) :
    (∀ s, ∃ result decoded words header,
      (Device.compilerOf d).compile s = .ok result ∧
      (Device.compilerOf d).decode result.image = .ok decoded ∧
      (∀ name ∈ d.registers.keys, ∃ word, result.image.word name = .ok word) ∧
      writtenSummary result.image d.registers = ifLegible d.registers.keys words ∧
      writtenHeader result.image d.registers = ifLegible d.registers.keys header ∧
      ∀ device, ∃ text, writtenPragmas s result.image d.layout device =
        ifLegible (device :: d.registers.keys) text) ∧
    (∀ signal package, d.pins.listPins signal package = .ok (d.pins.pinsFor signal package)) ∧
    (∀ assignments package,
      (d.pins.route assignments package).written = .ok (d.pins.route assignments package) ↔
        ∀ a ∈ assignments, ∀ refusal, d.pins.Refuses package a refusal →
          refusal.writable = true) ∧
    ((∀ assignments package,
      (d.pins.route assignments package).written = .ok (d.pins.route assignments package)) ↔
        d.pins.Speakable) ∧
    ∀ style r, Text.lowercase style ∈ ["harmony", "mikroc"] →
      ∃ text, setupText style r d.pins = .ok text := by
  obtain ⟨together, pins⟩ := ofTree_eq_ok read
  have declared : (Device.compilerOf d).Declared := together.declared
  refine ⟨?_, pins.listPins_eq, fun _ _ => PinTables.written_route_iff,
    PinTables.written_route_forall_iff, fun _ r known => exists_setupText known r d.pins⟩
  intro s
  obtain ⟨result, compiled⟩ := Compiler.exists_compile declared s
  have covers := Compiler.covers_compile declared compiled
  have keys := Compiler.keys_of_compile declared compiled
  obtain ⟨decoded, done, _⟩ := Compiler.exists_names together.reachable.sound fun _ member =>
    covers.read declared member
  obtain ⟨words, shown⟩ := exists_writtenSummary covers
  obtain ⟨header, defined⟩ := exists_writtenHeader covers
  refine ⟨result, decoded, words, header, compiled, done, ?_, shown, defined, ?_⟩
  · exact fun name member => ⟨_, word_of_contains (covers name member)⟩
  · exact fun device => ⟨_, (writtenPragmas_eq s result.image d.layout device).trans
      (by rw [keys]; rfl)⟩

theorem lookups_of_ofTree_clock :
    ∃ d, ofTree clockTree = .ok d ∧
      d.pins.listPins "INT1" none = .ok ["RPD2", "RPG8"] ∧
      ∀ s, ∃ result, (Device.compilerOf d).compile s = .ok result := by
  obtain ⟨d, read, listed⟩ : ∃ d, ofTree clockTree = .ok d ∧
      d.pins.pinsFor "INT1" none = ["RPD2", "RPG8"] := ⟨_, rfl, rfl⟩
  obtain ⟨words, pins, _⟩ := lookups_of_ofTree read
  refine ⟨d, read, (pins "INT1" none).trans (congrArg _ listed), fun s => ?_⟩
  obtain ⟨result, _, _, _, compiled, _⟩ := words s
  exact ⟨result, compiled⟩

open Sheet in
/-- The name of the register and the package of the pin have one digit too many. -/
def longNumbers : Tree :=
  record [
    ("family", .text "CLOCK"),
    ("registers", numbered [(Numeral.writeBound, registerTree 0x1FC0FFC8)]),
    ("settings", .list []),
    ("pps", record [
      ("groups", numbered [(1, .list [groupPinTree ⟨0, "RPD2", Numeral.writeBound⟩])]),
      ("inputs", .list [record [("signal", .text "INT1"), ("group", .int 1)]])])]

theorem unwritten_longNumbers :
    ∃ d result, ofTree longNumbers = .ok d ∧
      (Device.compilerOf d).compile OrderedMap.empty = .ok result ∧
      writtenSummary result.image d.registers = .error (.number .unwritable) ∧
      (d.pins.route [⟨"INT1", "RPD2", .input⟩] (some 64)).written = .error .unwritable :=
  ⟨_, _, rfl, rfl, rfl, rfl⟩

end Description
end ConfigWords
