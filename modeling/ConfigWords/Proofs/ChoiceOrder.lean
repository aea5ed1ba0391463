import ConfigWords.Proofs.Recompiling
import ConfigWords.Proofs.Render.Words
import ConfigWords.Render.Pragmas

/-! The order of the choices in a snapshot.
Where no bit has two fields, each bit is decided by at most one entry. So the image does not depend on
the order of the entries, and every text takes its order from the image or the layout. Only the
problems come in the order of the snapshot. -/
namespace ConfigWords

theorem Render.pragmas_congr {s t : Snapshot} {layout : Layout}
    (same : ∀ f ∈ layout.toList, s.get? f.index = t.get? f.index) (image : Image)
    (device : Scalar) : pragmas s image layout device = pragmas t image layout device := by
  have lines : ∀ f ∈ layout.toList, pragmaLine? s f = pragmaLine? t f := by
    intro f member
    rw [pragmaLine?, pragmaLine?, same f member]
  have blocks : pragmaBlock s layout = pragmaBlock t layout := by
    funext register
    have here := List.filterMap_congr fun f member =>
      lines f (List.mem_of_mem_filter (p := fun f => f.register.agrees register) member)
    rw [pragmaBlock, pragmaBlock, here]
  rw [pragmas, pragmas, pragmaLines, pragmaLines, blocks]

namespace Compiler

theorem diagnostics_perm (c : Compiler) {s t : Snapshot} (same : s.entries.Perm t.entries) :
    (c.diagnostics s).Perm (c.diagnostics t) :=
  same.filterMap _

/-- Where no bit belongs to two fields, the image depends on nothing but the bits that each field
ends with. -/
theorem image_congr {c : Compiler} {s t : Snapshot} {result again : Compiled}
    (sound : c.layout.Sound) (unshared : ∀ f ∈ c.layout.toList, c.layout.Unshared f)
    (declared : c.Declared) (compiled : c.compile s = .ok result) (second : c.compile t = .ok again)
    (same : ∀ f ∈ c.layout.toList, c.bitsOf t f = c.bitsOf s f) : again.image = result.image := by
  rw [image_of_compile declared compiled, image_of_compile declared second]
  refine congrArg Image.mk (OrderedMap.mapValues_congr fun e member => ?_)
  have found := OrderedMap.get?_of_mem member
  refine congrArg Int.ofNat (Word.cut_congr fun b _ => ?_)
  by_cases held : ∃ f ∈ c.layout.toList, f.Holds e.1 b
  · obtain ⟨f, present, holds⟩ := held
    rw [testBit_settle_of_holds sound found present (unshared f present) holds,
      testBit_settle_of_holds sound found present (unshared f present) holds, same f present]
  · rw [testBit_settle_of_unheld held, testBit_settle_of_unheld held]

/-- Two snapshots with the same entries compile to one image, and nothing that is made of it tells
them apart. The problems are the same up to their order. No field may stand in NaN, where the last
entry wins. -/
theorem compile_perm (c : Compiler) (reachable : c.layout.Reachable) (named : c.layout.Named)
    (declared : c.Declared) {s t : Snapshot} (same : s.entries.Perm t.entries) :
    ∃ image first second decoded words header,
      c.compile s = .ok ⟨image, first⟩ ∧ c.compile t = .ok ⟨image, second⟩ ∧
      first.Perm second ∧
      c.decode image = .ok decoded ∧
      Render.summary image c.registers = .ok words ∧
      Render.header image c.registers = .ok header ∧
      ∀ device, Render.pragmas s image c.layout device = Render.pragmas t image c.layout device := by
  have sound := reachable.sound
  have chosen : ∀ index, s.get? index = t.get? index := OrderedMap.get?_eq_of_perm same
  obtain ⟨⟨image, first⟩, compiled⟩ := exists_compile declared s
  obtain ⟨⟨other, second⟩, again⟩ := exists_compile declared t
  have images : other = image :=
    image_congr sound (fun f member => sound.unshared member (named f member)) declared compiled
      again fun f _ => bitsOf_congr (chosen f.index).symm
  subst images
  have problems : first.Perm second := by
    have here : first = c.diagnostics s := diagnostics_of_compile compiled
    have there : second = c.diagnostics t := diagnostics_of_compile again
    rw [here, there]
    exact c.diagnostics_perm same
  have covers := covers_compile declared compiled
  obtain ⟨decoded, done, _⟩ := decode_labels sound fun f member => covers.read declared member
  obtain ⟨words, shown, _⟩ := Render.exists_summary covers
  obtain ⟨header, defined⟩ := Render.exists_header covers
  exact ⟨other, first, second, decoded, words, header, compiled, again, problems, done, shown,
    defined, fun device => Render.pragmas_congr (fun f _ => chosen f.index) other device⟩

theorem compile_perm_twoFields :
    ∃ image first second, twoFields.compile threeChoices = .ok ⟨image, first⟩ ∧
      twoFields.compile (OrderedMap.ofList [(1, "turbo"), (2, "shut"), (3, "on")]) =
        .ok ⟨image, second⟩ ∧ first.Perm second := by
  have same : threeChoices.entries.Perm
      (OrderedMap.ofList [((1 : Int), "turbo"), (2, "shut"), (3, "on")]).entries := by decide
  obtain ⟨image, first, second, _, _, _, compiled, again, problems, _⟩ :=
    compile_perm twoFields reachable_twoFields named_twoFields declared_twoFields same
  exact ⟨image, first, second, compiled, again, problems⟩

end Compiler
end ConfigWords
