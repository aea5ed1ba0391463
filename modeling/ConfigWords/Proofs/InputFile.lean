import ConfigWords.InputFile
import ConfigWords.Proofs.Outcome

/-! Which files give a tree, and which fail without a report. -/
namespace ConfigWords.InputFile

variable (parse : String → Except Yaml.Fault Tree) (content : Except OpenFault ByteArray)

/-- The file is there, its bytes are text, and the text has the tree. -/
inductive Holds (path : String) (tree : Tree) : Prop
  | text {bytes : ByteArray} {text : String} : '\x00' ∉ path.toList →
    content = .ok bytes → String.fromUTF8? bytes = some text → parse text = .ok tree → Holds path tree

/-- The name of the file has a null character, its bytes are no text, or the text has no tree for
another reason than its form. -/
inductive Unreadable (path : String) : Prop
  | name : '\x00' ∈ path.toList → Unreadable path
  | bytes {bytes : ByteArray} :
    content = .ok bytes → String.fromUTF8? bytes = none → Unreadable path
  | scalar {bytes : ByteArray} {text : String} {fault : Yaml.Fault} :
    content = .ok bytes → String.fromUTF8? bytes = some text → parse text = .error fault →
    fault ≠ .malformed → Unreadable path

variable {parse content}

theorem fromUTF8?_toUTF8 (s : String) : String.fromUTF8? s.toUTF8 = some s :=
  dif_pos s.isValidUTF8

theorem read_eq_ok_iff {path : String} {tree : Tree} :
    read path content parse = .ok tree ↔ Holds parse content path tree := by
  constructor
  · intro done
    simp only [read] at done
    split at done
    · cases done
    · rename_i clean
      split at done
      · cases done
      · split at done
        · cases done
        · rename_i text decoded
          exact .text clean rfl decoded (mapError_eq_ok.1 done)
  · rintro ⟨clean, rfl, decoded, parsed⟩
    simp [read, clean, decoded, parsed, Except.mapError]

theorem read_unreported_iff {path : String} :
    (∃ fault, read path content parse = .error fault ∧ fault.failure? = none) ↔
      Unreadable parse content path := by
  constructor
  · rintro ⟨fault, refused, silent⟩
    simp only [read] at refused
    split at refused
    · rename_i null
      exact .name null
    · split at refused
      · cases refused
        cases silent
      · split at refused
        · rename_i undecoded
          exact .bytes rfl undecoded
        · rename_i text decoded
          obtain ⟨cause, failed, same⟩ := mapError_eq_error.1 refused
          refine .scalar rfl decoded failed ?_
          rintro rfl
          cases same
          cases silent
  · intro unreadable
    by_cases null : '\x00' ∈ path.toList
    · exact ⟨.nullInName, by simp [read, null], rfl⟩
    cases unreadable with
    | name other => exact absurd other null
    | bytes present undecoded => exact ⟨.undecodable, by simp [read, null, present, undecoded], rfl⟩
    | @scalar _ text fault present decoded failed other =>
      refine ⟨.scalar fault, ?_, rfl⟩
      cases fault <;> simp_all [read, Except.mapError]

end ConfigWords.InputFile
