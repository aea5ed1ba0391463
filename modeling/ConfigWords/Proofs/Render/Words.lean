import ConfigWords.Proofs.OrderedMap
import ConfigWords.Proofs.Outcome
import ConfigWords.Render.Words

/-! Words as text for an image that has them all.
The two forms ask an image for the word of each register that is declared. An image over these
registers has every one, so both forms succeed. -/
namespace ConfigWords.Render

theorem joinLines_ne_empty (lines : List String) : joinLines lines ≠ "" := by
  intro empty
  have length := congrArg String.length empty
  simp [joinLines] at length

theorem word_of_contains {image : Image} {name : Scalar}
    (present : image.words.contains name = true) :
    image.word name = .ok ((image.words.get? name).getD 0) := by
  obtain ⟨word, found⟩ := OrderedMap.contains_iff_exists.1 present
  simp [Image.word, found]

section Covered

variable {image : Image} {registers : Registers}
  (covers : ∀ name ∈ registers.keys, image.words.contains name = true)

include covers

theorem registerLines_eq (line : Scalar → Int → Int → String) :
    registerLines line image registers = .ok (registers.entries.map fun e =>
      line e.1 e.2.address ((image.words.get? e.1).getD 0)) := by
  apply mapM_eq_ok_map
  intro e member
  rw [word_of_contains (covers e.1 (List.mem_map_of_mem member))]
  rfl

theorem exists_summary : ∃ text, summary image registers = .ok text ∧ text ≠ "" := by
  rw [summary, registerLines_eq covers]
  exact ⟨_, rfl, joinLines_ne_empty _⟩

theorem exists_header : ∃ text, header image registers = .ok text := by
  rw [header, registerLines_eq covers]
  exact ⟨_, rfl⟩

end Covered

/-- A text where all names are short enough, and the number fault otherwise. -/
def ifLegible (names : List Scalar) (text : String) : Except WordsFault String :=
  if names.all Scalar.writable then .ok text else .error (.number .unwritable)

/-- Only a name that is too long stops the check: the words are all there. -/
theorem checkNames_bind {image : Image} {names : List Scalar}
    (covers : ∀ name ∈ names, image.words.contains name = true) (text : String) :
    (do checkNames image names; return text) = ifLegible names text := by
  induction names with
  | nil => rfl
  | cons name rest ih =>
    obtain ⟨present, later⟩ := List.forall_mem_cons.1 covers
    have step : checkNames image (name :: rest) =
        (if name.writable then ((image.word name).map fun _ => ()).mapError .register
          else .error (.number .unwritable)) >>= fun _ => checkNames image rest := rfl
    rw [step, word_of_contains present, ifLegible, List.all_cons]
    cases name.writable with
    | true => exact ih later
    | false => rfl

section Covered

variable {image : Image} {registers : Registers}
  (covers : ∀ name ∈ registers.keys, image.words.contains name = true)

include covers

theorem writtenSummary_eq :
    writtenSummary image registers = ifLegible registers.keys (joinLines
      (registers.entries.map fun e =>
        summaryLine e.1 e.2.address ((image.words.get? e.1).getD 0))) := by
  rw [writtenSummary, summary, registerLines_eq covers]
  exact checkNames_bind covers _

theorem writtenHeader_eq :
    writtenHeader image registers = ifLegible registers.keys (joinLines (headerOpening ++
      (registers.entries.map fun e =>
        defineLine e.1 e.2.address ((image.words.get? e.1).getD 0)) ++ headerClosing)) := by
  rw [writtenHeader, header, registerLines_eq covers]
  exact checkNames_bind covers _

theorem exists_writtenSummary :
    ∃ text, writtenSummary image registers = ifLegible registers.keys text :=
  ⟨_, writtenSummary_eq covers⟩

theorem exists_writtenHeader :
    ∃ text, writtenHeader image registers = ifLegible registers.keys text :=
  ⟨_, writtenHeader_eq covers⟩

end Covered
end ConfigWords.Render
