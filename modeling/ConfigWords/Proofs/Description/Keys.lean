import ConfigWords.Description.Access
import ConfigWords.Proofs.Outcome

/-! What stands under the keys of a tree.
A value is looked up under a key that must be there, or under one that may be missing. Looking it up
and reading it succeeds exactly if there is a value of the right form. -/
namespace ConfigWords.Tree

def Has (tree : Tree) (key : String) (form : Tree → Prop) : Prop :=
  ∃ entries value, tree = .mapping entries ∧ lookup entries key = some value ∧ form value

/-- A mapping with a value of the form under the key, or without the key where it may be left
out. -/
def HasOr (tree : Tree) (key : String) (form : Tree → Prop) (omissible : Prop) : Prop :=
  ∃ entries, tree = .mapping entries ∧
    ((∃ value, lookup entries key = some value ∧ form value) ∨
      (lookup entries key = none ∧ omissible))

def Spells (tree : Tree) (text : String) : Prop := tree.writable = true ∧ tree.plain = text

section Keys

variable {tree : Tree} {key : String} {form : Tree → Prop} {omissible : Prop}

theorem entries_eq_ok_iff {entries : List (Scalar × Tree)} :
    tree.entries = .ok entries ↔ tree = .mapping entries := by
  cases tree <;> simp [Tree.entries]

theorem has_iff :
    tree.Has key form ↔ ∃ value, tree.required key = .ok value ∧ form value := by
  cases tree with
  | mapping entries =>
    cases found : lookup entries key <;>
      simp [Has, required, Tree.entries, found, bind, Except.bind, pure, Except.pure]
  | scalar _ => simp [Has, required, Tree.entries, bind, Except.bind]
  | list _ => simp [Has, required, Tree.entries, bind, Except.bind]

theorem hasOr_iff {default : Tree} (left : omissible ↔ form default) :
    tree.HasOr key form omissible ↔ ∃ value, tree.optional key default = .ok value ∧ form value := by
  cases tree with
  | mapping entries =>
    cases found : lookup entries key <;>
      simp [HasOr, Tree.optional, Tree.entries, found, left, bind, Except.bind, pure, Except.pure]
  | scalar _ => simp [HasOr, Tree.optional, Tree.entries, bind, Except.bind]
  | list _ => simp [HasOr, Tree.optional, Tree.entries, bind, Except.bind]

theorem optional_of_required {value default : Tree} (found : tree.required key = .ok value) :
    tree.optional key default = .ok value := by
  obtain ⟨entries, _, rfl, under, rfl⟩ := has_iff.2 ⟨value, found, rfl⟩
  simp [Tree.optional, Tree.entries, under, bind, Except.bind, pure, Except.pure]

theorem required_of_optional {value default : Tree} (found : tree.optional key default = .ok value)
    (other : value ≠ default) : tree.required key = .ok value := by
  obtain ⟨entries, rfl, ⟨_, under, rfl⟩ | ⟨_, same⟩⟩ :=
    (hasOr_iff eq_comm).2 ⟨value, found, rfl⟩
  · simp [required, Tree.entries, under, bind, Except.bind, pure, Except.pure]
  · exact absurd same.symm other

theorem requiredInt_eq_ok_iff {n : Int} :
    tree.requiredInt key = .ok n ↔ tree.Has key (·.toInt = .ok n) := by
  simp only [requiredInt, bind_eq_ok, integer, mapError_eq_ok, has_iff]

theorem written_eq_ok_iff {text : String} : tree.written = .ok text ↔ tree.Spells text := by
  unfold written Spells
  split <;> simp_all

theorem requiredText_eq_ok_iff {text : String} :
    tree.requiredText key = .ok text ↔ tree.Has key (·.Spells text) := by
  simp only [requiredText, bind_eq_ok, written_eq_ok_iff, has_iff]

theorem spells_text_iff {s text : String} : (Tree.text s).Spells text ↔ s = text := by
  simp [Spells, writable, Scalar.writable, plain, Scalar.plain]

theorem optionalText_eq_ok_iff {default text : String} :
    tree.optionalText key default = .ok text ↔ tree.HasOr key (·.Spells text) (default = text) := by
  simp only [optionalText, bind_eq_ok, written_eq_ok_iff]
  exact (hasOr_iff spells_text_iff.symm).symm

theorem Has.required (has : tree.Has key form) :
    ∃ value, tree.required key = .ok value ∧ form value :=
  has_iff.1 has

theorem HasOr.optional {default : Tree} (has : tree.HasOr key form omissible)
    (left : omissible → form default) :
    ∃ value, tree.optional key default = .ok value ∧ form value := by
  obtain ⟨entries, rfl, under⟩ := has
  have kept := under.imp_right fun missing => And.intro missing.1 (left missing.2)
  exact (hasOr_iff Iff.rfl).1 ⟨entries, rfl, kept⟩

theorem Has.hasOr (has : tree.Has key form) : tree.HasOr key form False := by
  obtain ⟨entries, value, rfl, found, written⟩ := has
  exact ⟨entries, rfl, .inl ⟨value, found, written⟩⟩

theorem HasOr.imp {other : Tree → Prop} (has : tree.HasOr key form omissible)
    (weaker : ∀ value, form value → other value) : tree.HasOr key other omissible := by
  obtain ⟨entries, rfl, ⟨value, found, written⟩ | left⟩ := has
  · exact ⟨entries, rfl, .inl ⟨value, found, weaker value written⟩⟩
  · exact ⟨entries, rfl, .inr left⟩

theorem Has.int {n : Int} (has : tree.Has key (· = .int n)) : tree.requiredInt key = .ok n := by
  obtain ⟨_, found, rfl⟩ := has.required
  rw [requiredInt, found]
  rfl

theorem Has.text {s : String} (has : tree.Has key (· = .text s)) :
    tree.requiredText key = .ok s := by
  obtain ⟨_, found, rfl⟩ := has.required
  rw [requiredText, found]
  rfl

theorem HasOr.int {n default : Int} (has : tree.HasOr key (· = .int n) (n = default)) :
    tree.optionalInt key default = .ok n := by
  obtain ⟨_, found, rfl⟩ := has.optional (fun omitted => congrArg Tree.int omitted.symm)
  rw [optionalInt, found]
  rfl

theorem HasOr.text {s default : String} (has : tree.HasOr key (· = .text s) (s = default)) :
    tree.optionalText key default = .ok s := by
  obtain ⟨_, found, rfl⟩ := has.optional (fun omitted => congrArg Tree.text omitted.symm)
  rw [optionalText, found]
  rfl

end Keys

end ConfigWords.Tree
