import ConfigWords.Proofs.Interchange
import ConfigWords.Proofs.OrderedMap

/-! Whether a snapshot is what its file says.
A key that is no whole number can still be read as one, and of two keys that are read as one number
the later takes the place of the earlier. Where neither happens, the entries are kept as they are. -/
namespace ConfigWords.Interchange

/-- The key is a whole number, or a text that spells one. -/
inductive Denotes : Scalar → Int → Prop
  | int (n : Int) : Denotes (.int n) n
  | text {s : String} {n : Int} : Numeral.read s = .ok n → Denotes (.text s) n

/-- The key is no whole number and is read as one all the same. -/
inductive Coerced : Scalar → Prop
  | bool (b : Bool) : Coerced (.bool b)
  | cut (negative : Bool) (m : Nat) (e : Int) : Coerced (.float (.finite negative m e))

def Says (e : Scalar × Tree) (choice : Int × String) : Prop :=
  Denotes e.1 choice.1 ∧ e.2 = .text choice.2

/-- Every entry says something of a setting of its own, and this is all that the snapshot has, in
the order of the entries. -/
structure Faithful (entries : List (Scalar × Tree)) (s : Snapshot) : Prop where
  keys : ∀ e ∈ entries, ∃ n, Denotes e.1 n
  labels : ∀ e ∈ entries, ∃ label, e.2 = .text label
  apart : entries.Pairwise fun e e' => ¬ ∃ n, Denotes e.1 n ∧ Denotes e'.1 n
  each : List.Forall₂ Says entries s.entries

/-- Every entry is read, but a key is no whole number or two keys are read as one number. -/
def Misread (entries : List (Scalar × Tree)) : Prop :=
  (∀ e ∈ entries, ∃ choice, Chooses e choice) ∧
    ((∃ e ∈ entries, Coerced e.1) ∨ ¬ (entries.map fun e => e.1.toInt).Nodup)

theorem toInt_of_denotes {key : Scalar} {n : Int} (denotes : Denotes key n) :
    key.toInt = .ok n := by
  cases denotes with
  | int => rfl
  | text spelled => exact spelled

theorem denotes_iff {key : Scalar} {n : Int} :
    Denotes key n ↔ key.toInt = .ok n ∧ ¬ Coerced key := by
  constructor
  · intro denotes
    refine ⟨toInt_of_denotes denotes, ?_⟩
    cases denotes <;> exact nofun
  · rintro ⟨number, own⟩
    cases key with
    | int =>
      cases number
      exact .int n
    | text => exact .text number
    | bool b => exact absurd (.bool b) own
    | float x =>
      cases x with
      | finite negative m e => exact absurd (.cut negative m e) own
      | _ => cases number
    | _ => cases number

theorem says_iff {e : Scalar × Tree} {choice : Int × String} :
    Says e choice ↔ ¬ Coerced e.1 ∧ Chooses e choice := by
  obtain ⟨key, label⟩ := e
  obtain ⟨index, text⟩ := choice
  constructor
  · rintro ⟨denotes, rfl⟩
    obtain ⟨number, own⟩ := denotes_iff.1 denotes
    exact ⟨own, .entry number⟩
  · rintro ⟨own, ⟨number⟩⟩
    exact ⟨denotes_iff.2 ⟨number, own⟩, rfl⟩

theorem chooses_iff {e : Scalar × Tree} {choice : Int × String} :
    Chooses e choice ↔ e.1.toInt = .ok choice.1 ∧ e.2 = .text choice.2 := by
  obtain ⟨key, label⟩ := e
  constructor
  · rintro ⟨number⟩
    exact ⟨number, rfl⟩
  · rintro ⟨number, rfl⟩
    exact .entry number

theorem Chooses.unique {e : Scalar × Tree} {choice other : Int × String}
    (first : Chooses e choice) (second : Chooses e other) : choice = other := by
  obtain ⟨number, label⟩ := chooses_iff.1 first
  obtain ⟨again, same⟩ := chooses_iff.1 second
  rw [number] at again
  rw [label] at same
  exact Prod.ext (Except.ok.inj again) (Scalar.text.inj (Tree.scalar.inj same))

section Entries

variable {tree : Tree} {entries : List (Scalar × Tree)} {choices : List (Int × String)}
  {s : Snapshot}

theorem nodup_indices_iff (each : List.Forall₂ Chooses entries choices) :
    (entries.map fun e => e.1.toInt).Nodup ↔ (choices.map (·.1)).Nodup :=
  nodup_map_iff_of_forall₂ each fun _ _ chooses => (chooses_iff.1 chooses).1

theorem exists_choices (each : ∀ e ∈ entries, ∃ choice, Chooses e choice) :
    ∃ choices, List.Forall₂ Chooses entries choices := by
  induction entries with
  | nil => exact ⟨[], .nil⟩
  | cons e rest ih =>
    obtain ⟨⟨choice, first⟩, later⟩ := List.forall_mem_cons.1 each
    obtain ⟨choices, tail⟩ := ih later
    exact ⟨choice :: choices, .cons first tail⟩

theorem forall₂_says_iff :
    List.Forall₂ Says entries choices ↔
      (∀ e ∈ entries, ¬ Coerced e.1) ∧ List.Forall₂ Chooses entries choices := by
  rw [← List.forall₂_and_left]
  constructor
  · exact fun each => each.imp fun _ _ => says_iff.1
  · exact fun each => each.imp fun _ _ => says_iff.2

variable (root : snapshotRoot tree = .mapping entries)

include root

theorem readSnapshot_eq_ok_iff_choices :
    readSnapshot tree = .ok s ↔
      ∃ choices, List.Forall₂ Chooses entries choices ∧ s = OrderedMap.ofList choices := by
  rw [readSnapshot_eq_ok_iff]
  constructor
  · rintro (nothing | ⟨again, each⟩)
    · cases root.symm.trans nothing
    · cases root.symm.trans again
      exact ⟨_, each, rfl⟩
  · rintro ⟨choices, each, rfl⟩
    exact .mapping root each

theorem faithful_iff :
    Faithful entries s ↔ readSnapshot tree = .ok s ∧ (∀ e ∈ entries, ¬ Coerced e.1) ∧
      (entries.map fun e => e.1.toInt).Nodup := by
  rw [readSnapshot_eq_ok_iff_choices root]
  constructor
  · intro faithful
    obtain ⟨own, each⟩ := forall₂_says_iff.1 faithful.each
    have same : s = OrderedMap.ofList s.entries :=
      OrderedMap.ext_entries (OrderedMap.entries_ofList s.distinct).symm
    exact ⟨⟨s.entries, each, same⟩, own, (nodup_indices_iff each).2 s.nodup_keys⟩
  · rintro ⟨⟨choices, each, rfl⟩, own, apart⟩
    have kept := OrderedMap.entries_ofList_of_nodup ((nodup_indices_iff each).1 apart)
    have said : List.Forall₂ Says entries choices := forall₂_says_iff.2 ⟨own, each⟩
    have one : ∀ e ∈ entries, ∃ choice, Says e choice := fun e member =>
      (exists_mem_of_forall₂ said member).imp fun _ => And.right
    exact {
      keys := fun e member => (one e member).imp' Prod.fst fun _ => And.left
      labels := fun e member => (one e member).imp' Prod.snd fun _ => And.right
      apart := by
        refine (List.pairwise_map.1 apart).imp ?_
        rintro e e' different ⟨n, first, second⟩
        exact different ((toInt_of_denotes first).trans (toInt_of_denotes second).symm)
      each := kept.symm ▸ said }

theorem get?_of_readSnapshot (read : readSnapshot tree = .ok s) (n : Int) (label : String) :
    s.get? n = some label ↔
      ∃ e, LastWith (fun e => e.1.toInt = .ok n) entries e ∧ e.2 = .text label := by
  obtain ⟨choices, each, rfl⟩ := (readSnapshot_eq_ok_iff_choices root).1 read
  have named : ∀ e choice, Chooses e choice → (e.1.toInt = .ok n ↔ choice.1 = n) := by
    intro e choice chooses
    rw [(chooses_iff.1 chooses).1, Except.ok.injEq]
  rw [OrderedMap.get?_ofList_iff_of_forall₂ each (fun _ _ _ => Chooses.unique) named]
  apply exists_congr
  intro e
  apply and_congr_right
  rintro ⟨_, _, _, number, _⟩
  rw [chooses_iff]
  exact and_iff_right number

/-- A snapshot that is read has what the file says, unless the file is misread; and all that a file
can say is read. -/
theorem readSnapshot_faithful_iff :
    (∀ s, Faithful entries s → readSnapshot tree = .ok s) ∧
    ((∀ s, readSnapshot tree = .ok s → Faithful entries s) ↔ ¬ Misread entries) ∧
    ∀ s, readSnapshot tree = .ok s → ∀ n label, s.get? n = some label ↔
      ∃ e, LastWith (fun e => e.1.toInt = .ok n) entries e ∧ e.2 = .text label := by
  refine ⟨fun s faithful => ((faithful_iff root).1 faithful).1, ?_,
    fun s => get?_of_readSnapshot root⟩
  constructor
  · rintro faithful ⟨each, wrong⟩
    obtain ⟨choices, chosen⟩ := exists_choices each
    have read := (readSnapshot_eq_ok_iff_choices root).2 ⟨choices, chosen, rfl⟩
    obtain ⟨_, own, apart⟩ := (faithful_iff root).1 (faithful _ read)
    rcases wrong with ⟨e, member, coerced⟩ | repeated
    · exact own e member coerced
    · exact repeated apart
  · intro wellRead s read
    obtain ⟨choices, chosen, _⟩ := (readSnapshot_eq_ok_iff_choices root).1 read
    have each : ∀ e ∈ entries, ∃ choice, Chooses e choice := fun e member =>
      (exists_mem_of_forall₂ chosen member).imp fun _ => And.right
    refine (faithful_iff root).2 ⟨read, fun e member coerced => ?_, ?_⟩
    · exact wellRead ⟨each, .inl ⟨e, member, coerced⟩⟩
    · by_contra repeated
      exact wellRead ⟨each, .inr repeated⟩

end Entries

def twoSettings : List (Scalar × Tree) :=
  [(.int 6, .text "3x Divider"), (.text "10", .text "On")]

theorem readSnapshot_faithful_twoSettings :
    snapshotRoot (.mapping [(.text "settings", .mapping twoSettings)]) = .mapping twoSettings ∧
      ∃ s, readSnapshot (.mapping [(.text "settings", .mapping twoSettings)]) = .ok s ∧
        Faithful twoSettings s := by
  have root : snapshotRoot (.mapping [(.text "settings", .mapping twoSettings)]) =
      .mapping twoSettings := rfl
  have numbers : twoSettings.map (fun e => e.1.toInt) = [.ok 6, .ok 10] := rfl
  have wellRead : ¬ Misread twoSettings := by
    rintro ⟨_, ⟨e, member, coerced⟩ | repeated⟩
    · rcases List.mem_pair.1 member with rfl | rfl <;> cases coerced
    · rw [numbers] at repeated
      exact repeated (by simp)
  obtain ⟨s, read⟩ : ∃ s,
      readSnapshot (.mapping [(.text "settings", .mapping twoSettings)]) = .ok s := ⟨_, rfl⟩
  exact ⟨root, s, read, (readSnapshot_faithful_iff root).2.1.2 wellRead s read⟩

def halfKey : List (Scalar × Tree) :=
  [(.float (Binary64.ofDecimal false 15 (-1)), .text "3x Divider")]

def sameKeys : List (Scalar × Tree) :=
  [(.int 6, .text "3x Divider"), (.text "6", .text "5x Divider")]

/-- The key 1.5 is read as 1, and of the keys 6 and "6" the second takes the place of the first. -/
theorem snapshot_misread :
    (∃ s, readSnapshot (.mapping halfKey) = .ok s ∧ s.entries = [(1, "3x Divider")] ∧
      ¬ Faithful halfKey s) ∧
    ∃ s, readSnapshot (.mapping sameKeys) = .ok s ∧ s.entries = [(6, "5x Divider")] ∧
      ¬ Faithful sameKeys s := by
  refine ⟨⟨_, rfl, rfl, fun faithful => ?_⟩, ⟨_, rfl, rfl, fun faithful => ?_⟩⟩
  · obtain ⟨_, denotes⟩ := faithful.keys _ (.head _)
    cases denotes
  · have length := faithful.each.length_eq
    cases length

end ConfigWords.Interchange
