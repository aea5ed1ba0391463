import ConfigWords.Render.Words
import ConfigWords.Yaml.Character

/-! Written texts read back.
Lines that are joined are found again between the line feeds, and a number in hexadecimal has the
value that its digits spell. -/
namespace ConfigWords.Text

/-- The text has no line break. -/
def OneLine (text : String) : Prop := '\n' ∉ text.toList

instance (text : String) : Decidable (OneLine text) := inferInstanceAs (Decidable (_ ∉ _))

theorem oneLine_append {s t : String} : OneLine (s ++ t) ↔ OneLine s ∧ OneLine t := by
  simp [OneLine]

theorem oneLine_equation {left right : String} (first : OneLine left) (second : OneLine right) :
    OneLine (left ++ " = " ++ right) := by
  have fixed : OneLine " = " := by decide
  simp only [oneLine_append, fixed, first, second, and_self]

/-- The lines of a text. Behind the last line break stands one more, which may be empty. -/
def linesOf (text : String) : List String := (text.toList.splitOn '\n').map String.ofList

theorem intercalate_concat {α : Type} (gap : List α) {parts : List (List α)} (some : parts ≠ []) :
    gap.intercalate (parts ++ [[]]) = gap.intercalate parts ++ gap := by
  induction parts with
  | nil => exact absurd rfl some
  | cons head rest ih =>
    cases rest with
    | nil => simp [List.intercalate]
    | cons next more =>
      have later := ih (List.cons_ne_nil next more)
      simp only [List.cons_append, List.intercalate_cons_cons] at later ⊢
      rw [later, List.append_assoc, List.append_assoc, List.append_assoc]

theorem linesOf_joinLines {lines : List String} (some : lines ≠ [])
    (each : ∀ line ∈ lines, OneLine line) :
    linesOf (Render.joinLines lines) = lines ++ [""] := by
  have joined : (Render.joinLines lines).toList =
      ['\n'].intercalate (lines.map String.toList ++ [[]]) := by
    rw [intercalate_concat _ (by simpa using some), Render.joinLines, String.toList_append,
      String.toList_intercalate]
    rfl
  have whole : ∀ part ∈ lines.map String.toList ++ [[]], '\n' ∉ part := by
    intro part member
    rcases List.mem_append.1 member with own | last
    · obtain ⟨line, present, rfl⟩ := List.mem_map.1 own
      exact each line present
    · simp [List.mem_singleton.1 last]
  rw [linesOf, joined, List.splitOn_intercalate '\n' whole (by simp), List.map_append, List.map_map]
  simp [Function.comp_def]

theorem flatMap_ended {α : Type} (gap : List α) (parts : List (List α)) :
    (parts.flatMap fun part => part ++ gap) = gap.intercalate (parts ++ [[]]) := by
  induction parts with
  | nil => rfl
  | cons head rest ih =>
    rw [List.flatMap_cons, ih]
    cases rest with
    | nil => simp [List.intercalate]
    | cons next more =>
      rw [List.cons_append, List.cons_append, List.cons_append, List.intercalate_cons_cons]

/-- The paragraphs of a text: its lines between the empty ones. -/
def paragraphsOf (text : String) : List (List String) :=
  ((linesOf text).splitOn "").filter fun lines => !lines.isEmpty

theorem paragraphsOf_eq {text : String} {parts : List (List String)}
    (lines : linesOf text = parts.flatMap fun part => part ++ [""])
    (whole : ∀ part ∈ parts, part ≠ [] ∧ "" ∉ part) : paragraphsOf text = parts := by
  have split : (linesOf text).splitOn "" = parts ++ [[]] := by
    rw [lines, flatMap_ended]
    apply List.splitOn_intercalate _ _ (by simp)
    intro part member
    rcases List.mem_append.1 member with own | last
    · exact (whole part own).2
    · simp [List.mem_singleton.1 last]
  have kept : parts.filter (fun lines => !lines.isEmpty) = parts := by
    apply List.filter_eq_self.2
    intro part member
    simpa using (whole part member).1
  rw [paragraphsOf, split, List.filter_append, kept]
  exact List.append_nil parts

/-! Hexadecimal. -/

def isHexDigit (c : Char) : Bool := (Yaml.hexValue? c).isSome

def ofHex (digits : List Char) : Nat :=
  digits.foldl (fun n c => 16 * n + (Yaml.hexValue? c).getD 0) 0

theorem hexValue?_capitalDigit : ∀ n < 16, Yaml.hexValue? (capitalDigit n) = some n := by decide

theorem ofHex_concat (digits : List Char) {n : Nat} (small : n < 16) :
    ofHex (digits ++ [capitalDigit n]) = 16 * ofHex digits + n := by
  simp [ofHex, List.foldl_append, hexValue?_capitalDigit n small]

theorem isHexDigit_capitalDigit {n : Nat} (small : n < 16) :
    isHexDigit (capitalDigit n) = true := by
  rw [isHexDigit, hexValue?_capitalDigit n small]
  rfl

theorem ofHex_significantHex (n : Nat) : ofHex (significantHex n) = n := by
  induction n using Nat.strongRecOn with
  | ind n ih =>
    unfold significantHex
    split
    · rename_i zero
      rw [zero]
      rfl
    · rw [ofHex_concat _ (Nat.mod_lt n (by decide)), ih (n / 16) (by omega)]
      omega

theorem ofHex_hex (n : Nat) : ofHex (hex n) = n := by
  unfold hex
  split
  · rename_i zero
    rw [zero]
    rfl
  · exact ofHex_significantHex n

theorem isHexDigit_of_mem_significantHex {n : Nat} {c : Char} (member : c ∈ significantHex n) :
    isHexDigit c = true := by
  induction n using Nat.strongRecOn with
  | ind n ih =>
    unfold significantHex at member
    split at member
    · cases member
    · rcases List.mem_append.1 member with high | low
      · exact ih (n / 16) (by omega) high
      · rw [List.mem_singleton.1 low]
        exact isHexDigit_capitalDigit (Nat.mod_lt n (by decide))

theorem isHexDigit_of_mem_hex {n : Nat} {c : Char} (member : c ∈ hex n) : isHexDigit c = true := by
  unfold hex at member
  split at member
  · rw [List.mem_singleton.1 member]
    rfl
  · exact isHexDigit_of_mem_significantHex member

theorem hex_ne_nil (n : Nat) : hex n ≠ [] := by
  unfold hex
  split
  · simp
  · rename_i positive
    rw [significantHex, if_neg positive]
    simp

theorem exists_of_mem_hexFixed {width n : Nat} {c : Char} (member : c ∈ hexFixed width n) :
    ∃ m < 16, c = capitalDigit m := by
  induction width generalizing n with
  | zero => cases member
  | succ width ih =>
    rcases List.mem_append.1 member with high | low
    · exact ih high
    · exact ⟨n % 16, Nat.mod_lt n (by decide), List.mem_singleton.1 low⟩

theorem ofHex_hexFixed (width n : Nat) : ofHex (hexFixed width n) = n % Nat.pow 16 width := by
  induction width generalizing n with
  | zero => exact (Nat.mod_one n).symm
  | succ width ih =>
    have power : Nat.pow 16 (width + 1) = 16 * Nat.pow 16 width := Nat.mul_comm _ 16
    rw [hexFixed, ofHex_concat _ (Nat.mod_lt n (by decide)), ih, power, Nat.mod_mul, Nat.add_comm]

end ConfigWords.Text
